import ApiWiring.Text.Spelling.Stretch

/-!
# Spellings of syllabic scripts

Scripts that write a syllable with one letter, such as Ethiopic, Cherokee, Vai and Yi, each letter
by its syllable, and the alphabets that share their blocks.
-/
namespace ApiWiring.Text.Spelling

/-- Part 1 of 2 of `syllabic`. -/
def syllabicPartA : List Stretch := [
  (0x1200, "ha hu hi ha he h ho  le lu li la le l lo lwa ha hu hi ha he h ho  me mu mi ma"),
  (0x121C, "me m mo mwa se su si sa se s so  re ru ri ra re r ro rwa se su si sa se s so"),
  (0x1237, "swa she shu shi sha she sh sho shwa k'e k'u k'i k'a k'e k' k'o  k'o  k'wi k'wa"),
  (0x124C, "k'we k'wi   k'e k'u k'i k'a k'e k' k'o  k'wo  k'wi k'wa k'we k'wi   be bu bi"),
  (0x1263, "ba be b bo bwa ve vu vi va ve v vo vwa te tu ti ta te t to twa che chu chi cha"),
  (0x127C, "che ch cho chwa ha hu hi ha he h ho  ho  hwi hwa hwe hwi   ne nu ni na ne n no"),
  (0x1297, "nwa nye nyu nyi nya nye ny nyo nywa a u i a e  o e ke ku ki ka ke k ko  ko"),
  (0x12B2, "kwi kwa kwe kwi   he hu hi ha he h ho"),
  (0x12C8, "we wu wi wa we wi wo  'a 'u 'i 'a 'e ' 'o  ze zu zi za ze z zo zwa zhe zhu zhi"),
  (0x12E3, "zha zhe zh zho zhwa ye yu yi ya ye y yo  de du di da de d do dwa"),
  (0x1300, "je ju ji ja je j jo jwa ge gu gi ga ge g go  go  gwi gwa gwe gwi"),
  (0x1320, "t'e t'u t'i t'a t'e t' t'o t'wa ch'e ch'u ch'i ch'a ch'e ch' ch'o ch'wa p'e"),
  (0x1331, "p'u p'i p'a p'e p' p'o p'wa ts'e ts'u ts'i ts'a ts'e ts' ts'o ts'wa ts'e ts'u"),
  (0x1342, "ts'i ts'a ts'e ts' ts'o  fe fu fi fa fe f fo fwa pe pu pi pa pe p po pwa rya"),
  (0x1359, "mya fya"),
  (0x1361, ": . , ; : :- ? . 1 2 3 4 5 6 7 8 9 10 20 30 40 50 60 70 80 90 100"),
  (0x13A0, "A E I O U V Ga Ka Ge Gi Go Gu Gv Ha He Hi Ho Hu Hv La Le Li Lo Lu Lv Ma Me Mi"),
  (0x13BC, "Mo Mu Na Hna Nah Ne Ni No Nu Nv Qua Que Qui Quo Quu Quv Sa S Se Si So Su Sv Da"),
  (0x13D4, "Ta De Te Di Ti Do Du Dv Dla Tla Tle Tli Tlo Tlu Tlv Tsa Tse Tsi Tso Tsu Tsv Wa"),
  (0x13EA, "We Wi Wo Wu Wv Ya Ye Yi Yo Yu Yv Mv   ye yi yo yu yv mv   - e aai i ii o oo oo"),
  (0x1408, "ee i a aa we we wi wi wii wii wo wo woo woo woo wa wa waa waa waa ai w stop t"),
  (0x1420, "k sh s n w h h w c y l en in on an pe paai pi pii po poo poo hee hi pa paa pwe"),
  (0x143B, "pwe pwi pwi pwii pwii pwo pwo pwoo pwoo pwa pwa pwaa pwaa pwaa p p h te taai"),
  (0x144E, "ti tii to too too dee di ta taa twe twe twi twi twii twii two two twoo twoo"),
  (0x1461, "twa twa twaa twaa twaa t tte tti tto tta ke kaai ki kii ko koo koo ka kaa kwe"),
  (0x1475, "kwe kwi kwi kwii kwii kwo kwo kwoo kwoo kwa kwa kwaa kwaa kwaa k kw keh kih"),
  (0x1487, "koh kah ce caai ci cii co coo coo ca caa cwe cwe cwi cwi cwii cwii cwo cwo"),
  (0x149A, "cwoo cwoo cwa cwa cwaa cwaa cwaa c th me maai mi mii mo moo moo ma maa mwe mwe"),
  (0x14AE, "mwi mwi mwii mwii mwo mwo mwoo mwoo mwa mwa mwaa mwaa mwaa m m mh m m ne naai"),
  (0x14C2, "ni nii no noo noo na naa nwe nwe nwa nwa nwaa nwaa nwaa n ng nh le laai li lii"),
  (0x14D7, "lo loo loo la laa lwe lwe lwi lwi lwii lwii lwo lwo lwoo lwoo lwa lwa lwaa"),
  (0x14E9, "lwaa l l l se saai si sii so soo soo sa saa swe swe swi swi swii swii swo swo"),
  (0x14FE, "swoo swoo swa swa swaa swaa swaa s s sw s sk skw sw spwa stwa skwa scwa she"),
  (0x1511, "shi shii sho shoo sha shaa shwe shwe shwi shwi shwii shwii shwo shwo shwoo"),
  (0x1520, "shwoo shwa shwa shwaa shwaa sh ye yaai yi yii yo yoo yoo ya yaa ywe ywe ywi"),
  (0x1532, "ywi ywii ywii ywo ywo ywoo ywoo ywa ywa ywaa ywaa ywaa y y y yi re re le raai"),
  (0x1546, "ri rii ro roo lo ra raa la rwaa rwaa r r r fe faai fi fii fo foo fa faa fwaa"),
  (0x155C, "fwaa f the the thi thi thii thii tho thoo tha thaa thwaa thwaa th tthe tthi"),
  (0x156D, "ttho ttha tth tye tyi tyo tya he hi hii ho hoo ha haa h h hk qaai qi qii qo"),
  (0x1582, "qoo qa qaa q tlhe tlhi tlho tlha re ri ro ra ngaai ngi ngii ngo ngoo nga ngaa"),
  (0x1595, "ng nng she shi sho sha the thi tho tha th lhi lhii lho lhoo lha lhaa lh the"),
  (0x15A8, "thi thii tho thoo tha thaa th b e i o a we wi wo wa ne ni no na ke ki ko ka he"),
  (0x15C1, "hi ho ha ghu gho ghe ghee ghi gha ru ro re ree ri ra wu wo we wee wi wa hwu")]

/-- Part 2 of 2 of `syllabic`. -/
def syllabicPartB : List Stretch := [
  (0x15D7, "hwo hwe hwee hwi hwa thu tho the thee thi tha ttu tto tte ttee tti tta pu po"),
  (0x15EA, "pe pee pi pa p gu go ge gee gi ga khu kho khe khee khi kha kku kko kke kkee"),
  (0x15FF, "kki kka kk nu no ne nee ni na mu mo me mee mi ma yu yo ye yee yi ya ju ju jo"),
  (0x1617, "je jee ji ji ja jju jjo jje jjee jji jja lu lo le lee li la dlu dlo dle dlee"),
  (0x162C, "dli dla lhu lho lhe lhee lhi lha tlhu tlho tlhe tlhee tlhi tlha tlu tlo tle"),
  (0x163D, "tlee tli tla zu zo ze zee zi za z z dzu dzo dze dzee dzi dza su so se see si"),
  (0x1653, "sa shu sho she shee shi sha sh tsu tso tse tsee tsi tsa chu cho che chee chi"),
  (0x1666, "cha ttsu ttso ttse ttsee ttsi ttsa x . qai ngai nngi nngii nngo nngoo nnga"),
  (0x1676, "nngaa thwee thwi thwii thwo thwoo thwa thwaa th w"),
  (0x18B0, "oy ay aay way poy pay pwoy tay kay kway may noy nay lay soy say shoy shay"),
  (0x18C2, "shwoy yoy yay ray nwi nwi nwii nwii nwo nwo nwoo nwoo rwee rwi rwii rwo rwoo"),
  (0x18D3, "rwa p t k c m n s sh w w   rwe loo laa thwe thwa tthwe tthoo tthaa tlhwe tlhoo"),
  (0x18EA, "shwe shoo hoo gwu gee gaa gwa juu jwa l r s"),
  (0x2D30, "a b bh g gh j j d dh d dh e f k k kh h h h h ' kh kh q q i zh zh zh l m n gn"),
  (0x2D51, "ng p u r r gh gh gh s s sh t th ch t v w y z z z e o"), (0x2D6F, "yaw"),
  (0xA4D0, "b p ph d t th g k kh j c ch dz ts tsh m n l s zh z ng h x h f w sh y gh a ae e"),
  (0xA4F1, "eu i o u ue uh oe  p cy b n    ee een hee wee ween pee bhee bee mbee kpee"),
  (0xA50A, "mgbee gbee fee vee tee thee dhee dhhee lee ree dee ndee see shee zee zhee cee"),
  (0xA51B, "jee njee yee kee nggee gee mee nee nyee i in hi hin wi win pi bhi bi mbi kpi"),
  (0xA52F, "mgbi gbi fi vi ti thi dhi dhhi li ri di ndi si shi zi zhi ci ji nji yi ki nggi"),
  (0xA545, "gi mi ni nyi a an ngan ha han wa wan pa bha ba mba kpa kpan mgba gba fa va ta"),
  (0xA55B, "tha dha dhha la ra da nda sa sha za zha ca ja nja ya ka kan ngga ga ma na nya"),
  (0xA571, "oo oon hoo woo woon poo bhoo boo mboo kpoo mgboo gboo foo voo too thoo dhoo"),
  (0xA582, "dhhoo loo roo doo ndoo soo shoo zoo zhoo coo joo njoo yoo koo nggoo goo moo"),
  (0xA593, "noo nyoo u un hu hun wu wun pu bhu bu mbu kpu mgbu gbu fu vu tu thu dhu dhhu"),
  (0xA5A8, "lu ru du ndu su shu zu zhu cu ju nju yu ku nggu gu mu nu nyu o on ngon ho hon"),
  (0xA5BF, "wo won po bho bo mbo kpo mgbo gbo gbon fo vo to tho dho dhho lo ro do ndo so"),
  (0xA5D4, "sho zo zho co jo njo yo ko nggo go mo no nyo e en ngen he hen we wen pe bhe be"),
  (0xA5EB, "mbe kpe kpen mgbe gbe gben fe ve te the dhe dhhe le re de nde se she ze zhe ce"),
  (0xA600, "je nje ye ke ngge nggen ge gen me ne nye ng lengthener comma"),
  (0xA620, "0 1 2 3 4 5 6 7 8 9"),
  (0xA6A0, "a ka u ku ee ree tae o nyi i la pa rii riee leeee meeee taa ndaa njaem m suu"),
  (0xA6B5, "mu shii si sheux seux kyee ket nuae nu njuae yoq shu yuq ya nsha keux peux"),
  (0xA6C6, "njee ntee pue wue pee fee ru lu mi ni reux rae ken ngkwaen ngga nga sho puae"),
  (0xA6D8, "fu fom wa na li pi loq ko mben ren men ma ti ki mo mbaa tet kpa ten ntuu samba"),
  (0xA6ED, "faamae kovuu koghom   njaemli  colon comma semicolon"),
  (0xAB70, "a e i o u v ga ka ge gi go gu gv ha he hi ho hu hv la le li lo lu lv ma me mi"),
  (0xAB8C, "mo mu na hna nah ne ni no nu nv qua que qui quo quu quv sa s se si so su sv da"),
  (0xABA4, "ta de te di ti do du dv dla tla tle tli tlo tlu tlv tsa tse tsi tso tsu tsv wa"),
  (0xABBA, "we wi wo wu wv ya kok sam lai mit p n chil til khou ngou thou wai yang huk un"),
  (0xABCF, "i pham atiya gok jham rai b jil dil ghou dhou bham"),
  (0xABEB, "cheikhei     0 1 2 3 4 5 6 7 8 9")]

/-- Ethiopic, Cherokee, Vai and related letters. -/
def syllabic : List Stretch :=
  syllabicPartA ++ syllabicPartB

/-- Yi syllables. -/
def yi : List Stretch := [
  (0xA000, "it ix i ip iet iex ie iep at ax a ap uox uo uop ot ox o op ex e wu bit bix bi"),
  (0xA019, "bip biet biex bie biep bat bax ba bap buox buo buop bot box bo bop bex be bep"),
  (0xA02C, "but bux bu bup burx bur byt byx by byp byrx byr pit pix pi pip piex pie piep"),
  (0xA03F, "pat pax pa pap puox puo puop pot pox po pop put pux pu pup purx pur pyt pyx py"),
  (0xA053, "pyp pyrx pyr bbit bbix bbi bbip bbiet bbiex bbie bbiep bbat bbax bba bbap"),
  (0xA062, "bbuox bbuo bbuop bbot bbox bbo bbop bbex bbe bbep bbut bbux bbu bbup bburx"),
  (0xA071, "bbur bbyt bbyx bby bbyp nbit nbix nbi nbip nbiex nbie nbiep nbat nbax nba nbap"),
  (0xA081, "nbot nbox nbo nbop nbut nbux nbu nbup nburx nbur nbyt nbyx nby nbyp nbyrx nbyr"),
  (0xA091, "hmit hmix hmi hmip hmiex hmie hmiep hmat hmax hma hmap hmuox hmuo hmuop hmot"),
  (0xA0A0, "hmox hmo hmop hmut hmux hmu hmup hmurx hmur hmyx hmy hmyp hmyrx hmyr mit mix"),
  (0xA0B0, "mi mip miex mie miep mat max ma map muot muox muo muop mot mox mo mop mex me"),
  (0xA0C3, "mut mux mu mup murx mur myt myx my myp fit fix fi fip fat fax fa fap fox fo"),
  (0xA0D7, "fop fut fux fu fup furx fur fyt fyx fy fyp vit vix vi vip viet viex vie viep"),
  (0xA0EA, "vat vax va vap vot vox vo vop vex vep vut vux vu vup vurx vur vyt vyx vy vyp"),
  (0xA0FE, "vyrx vyr dit dix di dip diex die diep dat dax da dap duox duo dot dox do dop"),
  (0xA111, "dex de dep dut dux du dup durx dur tit tix ti tip tiex tie tiep tat tax ta tap"),
  (0xA125, "tuot tuox tuo tuop tot tox to top tex te tep tut tux tu tup turx tur ddit ddix"),
  (0xA138, "ddi ddip ddiex ddie ddiep ddat ddax dda ddap dduox dduo dduop ddot ddox ddo"),
  (0xA147, "ddop ddex dde ddep ddut ddux ddu ddup ddurx ddur ndit ndix ndi ndip ndiex ndie"),
  (0xA157, "ndat ndax nda ndap ndot ndox ndo ndop ndex nde ndep ndut ndux ndu ndup ndurx"),
  (0xA167, "ndur hnit hnix hni hnip hniet hniex hnie hniep hnat hnax hna hnap hnuox hnuo"),
  (0xA176, "hnot hnox hnop hnex hne hnep hnut nit nix ni nip niex nie niep nax na nap nuox"),
  (0xA188, "nuo nuop not nox no nop nex ne nep nut nux nu nup nurx nur hlit hlix hli hlip"),
  (0xA19B, "hliex hlie hliep hlat hlax hla hlap hluox hluo hluop hlox hlo hlop hlex hle"),
  (0xA1AA, "hlep hlut hlux hlu hlup hlurx hlur hlyt hlyx hly hlyp hlyrx hlyr lit lix li"),
  (0xA1BA, "lip liet liex lie liep lat lax la lap luot luox luo luop lot lox lo lop lex le"),
  (0xA1CD, "lep lut lux lu lup lurx lur lyt lyx ly lyp lyrx lyr git gix gi gip giet giex"),
  (0xA1E0, "gie giep gat gax ga gap guot guox guo guop got gox go gop get gex ge gep gut"),
  (0xA1F3, "gux gu gup gurx gur kit kix ki kip kiex kie kiep kat kax ka kap kuox kuo kuop"),
  (0xA206, "kot kox ko kop ket kex ke kep kut kux ku kup kurx kur ggit ggix ggi ggiex ggie"),
  (0xA219, "ggiep ggat ggax gga ggap gguot gguox gguo gguop ggot ggox ggo ggop gget ggex"),
  (0xA228, "gge ggep ggut ggux ggu ggup ggurx ggur mgiex mgie mgat mgax mga mgap mguox"),
  (0xA237, "mguo mguop mgot mgox mgo mgop mgex mge mgep mgut mgux mgu mgup mgurx mgur hxit"),
  (0xA247, "hxix hxi hxip hxiet hxiex hxie hxiep hxat hxax hxa hxap hxuot hxuox hxuo hxuop"),
  (0xA256, "hxot hxox hxo hxop hxex hxe hxep ngiex ngie ngiep ngat ngax nga ngap nguot"),
  (0xA265, "nguox nguo ngot ngox ngo ngop ngex nge ngep hit hiex hie hat hax ha hap huot"),
  (0xA276, "huox huo huop hot hox ho hop hex he hep wat wax wa wap wuox wuo wuop wox wo"),
  (0xA289, "wop wex we wep zit zix zi zip ziex zie ziep zat zax za zap zuox zuo zuop zot"),
  (0xA29C, "zox zo zop zex ze zep zut zux zu zup zurx zur zyt zyx zy zyp zyrx zyr cit cix"),
  (0xA2B0, "ci cip ciet ciex cie ciep cat cax ca cap cuox cuo cuop cot cox co cop cex ce"),
  (0xA2C3, "cep cut cux cu cup curx cur cyt cyx cy cyp cyrx cyr zzit zzix zzi zzip zziet"),
  (0xA2D5, "zziex zzie zziep zzat zzax zza zzap zzox zzo zzop zzex zze zzep zzux zzu zzup"),
  (0xA2E5, "zzurx zzur zzyt zzyx zzy zzyp zzyrx zzyr nzit nzix nzi nzip nziex nzie nziep"),
  (0xA2F4, "nzat nzax nza nzap nzuox nzuo nzox nzop nzex nze nzux nzu nzup nzurx nzur nzyt"),
  (0xA304, "nzyx nzy nzyp nzyrx nzyr sit six si sip siex sie siep sat sax sa sap suox suo"),
  (0xA316, "suop sot sox so sop sex se sep sut sux su sup surx sur syt syx sy syp syrx syr"),
  (0xA32A, "ssit ssix ssi ssip ssiex ssie ssiep ssat ssax ssa ssap ssot ssox sso ssop ssex"),
  (0xA33A, "sse ssep ssut ssux ssu ssup ssyt ssyx ssy ssyp ssyrx ssyr zhat zhax zha zhap"),
  (0xA34A, "zhuox zhuo zhuop zhot zhox zho zhop zhet zhex zhe zhep zhut zhux zhu zhup"),
  (0xA359, "zhurx zhur zhyt zhyx zhy zhyp zhyrx zhyr chat chax cha chap chuot chuox chuo"),
  (0xA368, "chuop chot chox cho chop chet chex che chep chux chu chup churx chur chyt chyx"),
  (0xA378, "chy chyp chyrx chyr rrax rra rruox rruo rrot rrox rro rrop rret rrex rre rrep"),
  (0xA388, "rrut rrux rru rrup rrurx rrur rryt rryx rry rryp rryrx rryr nrat nrax nra nrap"),
  (0xA398, "nrox nro nrop nret nrex nre nrep nrut nrux nru nrup nrurx nrur nryt nryx nry"),
  (0xA3A8, "nryp nryrx nryr shat shax sha shap shuox shuo shuop shot shox sho shop shet"),
  (0xA3B7, "shex she shep shut shux shu shup shurx shur shyt shyx shy shyp shyrx shyr rat"),
  (0xA3C7, "rax ra rap ruox ruo ruop rot rox ro rop rex re rep rut rux ru rup rurx rur ryt"),
  (0xA3DB, "ryx ry ryp ryrx ryr jit jix ji jip jiet jiex jie jiep juot juox juo juop jot"),
  (0xA3ED, "jox jo jop jut jux ju jup jurx jur jyt jyx jy jyp jyrx jyr qit qix qi qip qiet"),
  (0xA401, "qiex qie qiep quot quox quo quop qot qox qo qop qut qux qu qup qurx qur qyt"),
  (0xA413, "qyx qy qyp qyrx qyr jjit jjix jji jjip jjiet jjiex jjie jjiep jjuox jjuo jjuop"),
  (0xA423, "jjot jjox jjo jjop jjut jjux jju jjup jjurx jjur jjyt jjyx jjy jjyp njit njix"),
  (0xA433, "nji njip njiet njiex njie njiep njuox njuo njot njox njo njop njux nju njup"),
  (0xA442, "njurx njur njyt njyx njy njyp njyrx njyr nyit nyix nyi nyip nyiet nyiex nyie"),
  (0xA451, "nyiep nyuox nyuo nyuop nyot nyox nyo nyop nyut nyux nyu nyup xit xix xi xip"),
  (0xA461, "xiet xiex xie xiep xuox xuo xot xox xo xop xyt xyx xy xyp xyrx xyr yit yix yi"),
  (0xA474, "yip yiet yiex yie yiep yuot yuox yuo yuop yot yox yo yop yut yux yu yup yurx"),
  (0xA486, "yur yyt yyx yy yyp yyrx yyr")]

end ApiWiring.Text.Spelling
