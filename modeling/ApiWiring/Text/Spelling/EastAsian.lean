import ApiWiring.Text.Spelling.Stretch

/-!
# Spellings of kana and enclosed letters

Kana, the single letters of Hangul, phonetic letters, East Asian punctuation, and letters and
numbers in circles, brackets and squares.
-/
namespace ApiWiring.Text.Spelling

/-- Kana, phonetic letters and East Asian signs. -/
def eastAsian : List Stretch := [
  (0x1100, "g kk n d tt r m b pp s ss  j jj ch k t p h"),
  (0x1161, "a ae ya yae eo e yeo ye o wa wae oe yo u wo we wi yu eu ui i"),
  (0x11A8, "g kk gs n nj nh d l lg lm lb ls lt lp lh m b bs s ss ng j ch k t p h"),
  (0x3001, ", . \" JIS   0 < > << >> \" \" \" \" [ ] T = [ ] [ ] [ ] [ ] ~ \" \" \""),
  (0x3030, "~      T  Shi Nian Sa"),
  (0x3041, "a a i i u u e e o o ka ga ki gi ku gu ke ge ko go sa za shi ji su zu se ze so"),
  (0x305E, "zo ta da chi ji tsu tsu zu te de to do na ni nu ne no ha ba pa hi bi pi fu bu"),
  (0x3077, "pu he be pe ho bo po ma mi mu me mo ya ya yu yu yo yo ra ri ru re ro wa wa i e"),
  (0x3092, "wo n vu ka ke"),
  (0x309F, "yori = a a i i u u e e o o ka ga ki gi ku gu ke ge ko go sa za shi ji su zu se"),
  (0x30BC, "ze so zo ta da chi ji tsu tsu zu te de to do na ni nu ne no ha ba pa hi bi pi"),
  (0x30D5, "fu bu pu he be pe ho bo po ma mi mu me mo ya ya yu yu yo yo ra ri ru re ro wa"),
  (0x30EF, "wa i e wo n vu ka ke va vi ve vo - -   koto      b p m f d t n l g k h j q x"),
  (0x3113, "zh ch sh r z c s a o e e ai ei ao ou an en ang eng er i u iu v ng gn ih  nn  g"),
  (0x3132, "kk gs n nj nh d tt r lg lm lb ls lt lp lh m b pp bs s ss ng j jj ch k t p h a"),
  (0x3150, "ae ya yae eo e yeo ye o wa wae oe yo u wo we wi yu eu ui i"),
  (0x3192, "Yi Er San Si Shang Zhong Xia Jia Yi Bing Ding Tian De Ren bu zi ji gu ee enn"),
  (0x31A6, "oo onn ir ann inn unn im ngg ainn aunn am om ong innn     gh lh zy  gw kw oe"),
  (0x31BF, "ah"),
  (0x31F0, "ku shi su to nu ha hi fu he ho mu ra ri ru re ro (g) (n) (d) (r) (m) (b) (s)"),
  (0x3207, "() (j) (ch) (k) (t) (p) (h) (ga) (na) (da) (ra) (ma) (ba) (sa) (a) (ja) (cha)"),
  (0x3218, "(ka) (ta) (pa) (ha) (ju) (ojeon) (ohu)  (Yi) (Er) (San) (Si) (Wu) (Liu) (Qi)"),
  (0x3227, "(Ba) (Jiu) (Shi) (Yue) (Huo) (Shui) (Mu) (Jin) (Tu) (Ri) (Zhu) (You) (She)"),
  (0x3234, "(Ming) (Te) (Cai) (Zhu) (Lao) (Dai) (Hu) (Xue) (Jian) (Qi) (Zi) (Xie) (Ji)"),
  (0x3241, "(Xiu) (Zi) (Zhi) Wen You Wen Zheng"),
  (0x3250, "PTE 21 22 23 24 25 26 27 28 29 30 31 32 33 34 35 g n d r m b s  j ch k t p h"),
  (0x326E, "ga na da ra ma ba sa a ja cha ka ta pa ha chamgo juui u  Yi Er San Si Wu Liu"),
  (0x3286, "Qi Ba Jiu Shi Yue Huo Shui Mu Jin Tu Ri Zhu You She Ming Te Cai Zhu Lao Mi Nan"),
  (0x329B, "Nu Shi You Yin Zhu Xiang Xiu Xie Zheng Shang Zhong Xia Zuo You Yi Zong Xue"),
  (0x32AC, "Jian Qi Zi Xie Ye 36 37 38 39 40 41 42 43 44 45 46 47 48 49 50 1Yue 2Yue 3Yue"),
  (0x32C3, "4Yue 5Yue 6Yue 7Yue 8Yue 9Yue 10Yue 11Yue 12Yue Hg erg eV LTD a i u e o ka ki"),
  (0x32D7, "ku ke ko sa shi su se so ta chi tsu te to na ni nu ne no ha hi fu he ho ma mi"),
  (0x32F0, "mu me mo ya yu yo ra ri ru re ro wa i e wo LingHe aha-to arufua anhea a-ru"),
  (0x3304, "ininku inchi uon esuku-to e-ka- onsu o-mu kairi karatsuto karori- karon kanma"),
  (0x3310, "kika kini- kiyuri- kiruta- kiro kirokuramu kirome-toru kirowatsuto kuramu"),
  (0x3319, "kuramuton kuruseiro kuro-ne ke-su koruna ko-ho saikuru sanchi-mu shirinku"),
  (0x3322, "senchi sento ta-su teshi toru ton nano notsuto haitsu ha-sento ha-tsu ha-reru"),
  (0x332E, "hiasutoru hikuru hiko hiru fuaratsuto fui-to futsushieru furan hekuta-ru heso"),
  (0x3338, "henihi herutsu hensu he-shi he-ta hointo horuto hon honto ho-ru ho-n maikuro"),
  (0x3344, "mairu matsuha maruku manshiyon mikuron miri miriha-ru meka mekaton me-toru"),
  (0x334E, "ya-to ya-ru yuan ritsutoru rira ruhi- ru-furu remu rentoken watsuto 0Dian"),
  (0x3359, "1Dian 2Dian 3Dian 4Dian 5Dian 6Dian 7Dian 8Dian 9Dian 10Dian 11Dian 12Dian"),
  (0x3365, "13Dian 14Dian 15Dian 16Dian 17Dian 18Dian 19Dian 20Dian 21Dian 22Dian 23Dian"),
  (0x3370, "24Dian hPa da AU bar oV pc dm dm2 dm3 IU PingCheng ZhaoHe DaZheng MingZhi"),
  (0x337F, "ZhuShiHuiShe pA nA mA mA kA KB MB GB cal kcal pF nF mF mg mg kg Hz kHz MHz GHz"),
  (0x3394, "THz ml ml dl kl fm nm mm mm cm km mm2 cm2 m2 km2 mm3 cm3 m3 km3 m/s m/s2 Pa"),
  (0x33AA, "kPa MPa GPa rad rad/s rad/s2 ps ns ms ms pV nV mV mV kV MV pW nW mW mW kW MW"),
  (0x33C0, "kO MO a.m. Bq cc cd C/kg Co. dB Gy ha HP in KK Km kt lm ln log lx mb mil mol"),
  (0x33D7, "pH p.m. PPM PR sr Sv Wb V/m A/m 1Ri 2Ri 3Ri 4Ri 5Ri 6Ri 7Ri 8Ri 9Ri 10Ri 11Ri"),
  (0x33EB, "12Ri 13Ri 14Ri 15Ri 16Ri 17Ri 18Ri 19Ri 20Ri 21Ri 22Ri 23Ri 24Ri 25Ri 26Ri"),
  (0x33FA, "27Ri 28Ri 29Ri 30Ri 31Ri gal"),
  (0xFF61, ". \" \" , - wo a i u e o ya yu yo tsu - a i u e o ka ki ku ke ko sa shi su se"),
  (0xFF7F, "so ta chi tsu te to na ni nu ne no ha hi fu he ho ma mi mu me mo ya yu yo ra"),
  (0xFF98, "ri ru re ro wa n    g kk gs n nj nh d tt r lg lm lb ls lt lp  m b pp  s ss  j"),
  (0xFFB9, "jj ch k t p h    a ae ya yae eo e   yeo ye o wa wae oe   yo u wo we wi yu   eu"),
  (0xFFDB, "ui i    c GBP !  | Y W  | <- ^ -> v # *"), (0x1F200, "hoka"),
  (0x1F210, "Shou Zi Shuang te Er Duo Jie Tian Jiao Ying  Liao Qian Hou Zai Xin Chu Zhong"),
  (0x1F222, "Sheng Fan Sheng Chui Yan Tou Bu Yi San You Zuo Zhong You  Zou Da"),
  (0x1F23B, "Pei     [Ben] [San] [Er] [An] [Dian] [Da] [Dao] [Sheng] [Bai]")]

end ApiWiring.Text.Spelling
