import ApiWiring.Text.Spelling.Stretch

/-!
# Names of emoji

Emoji have names. A name is written between two colons when the emoji is spelled.
-/
namespace ApiWiring.Text.Spelling

/-- Part 1 of 3 of `emojiNames`. -/
def emojiNamesPartA : List Stretch := [
  (0x231A, "watch hourglass"), (0x2328, "keyboard"), (0x23CF, "eject"),
  (0x23E9, "fast_forward rewind arrow_double_up arrow_double_down track_next"),
  (0x23EE, "track_previous play_pause alarm_clock stopwatch timer hourglass_flowing_sand"),
  (0x23F8, "pause_button stop_button record_button"),
  (0x25FD, "white_medium_small_square black_medium_small_square  sunny cloud umbrella2"),
  (0x2603, "snowman2 comet"),
  (0x260E, "telephone      umbrella coffee   shamrock     point_up   skull_crossbones"),
  (0x2622, "radioactive biohazard   orthodox_cross    star_and_crescent    peace yin_yang"),
  (0x2638, "wheel_of_dharma frowning2 relaxed      female_sign  male_sign      aries"),
  (0x2649, "taurus gemini cancer leo virgo libra scorpius sagittarius capricorn aquarius"),
  (0x2653, "pisces"), (0x265F, "chess_pawn spades   clubs  hearts diamonds  hotsprings"),
  (0x267B, "recycle   infinity wheelchair"),
  (0x2692, "hammer_pick anchor crossed_swords medical_symbol scales alembic  gear  atom"),
  (0x269C, "fleur_de_lis    warning zap      male_with_stroke_and_male_and_female_sign"),
  (0x26AA, "white_circle black_circle     coffin urn"),
  (0x26BD, "soccer baseball      snowman partly_sunny   thunder_cloud_rain      ophiuchus"),
  (0x26CF, "pick  helmet_with_cross  chains no_entry"),
  (0x26E9, "shinto_shrine church      mountain umbrella_on_ground fountain golf ferry"),
  (0x26F5, "sailboat  skier ice_skate person_bouncing_ball tent   fuelpump     scissors"),
  (0x2705, "white_check_mark   airplane envelope fist raised_hand v writing_hand  pencil2"),
  (0x2712, "black_nib"), (0x271D, "cross    star_of_david"), (0x2728, "sparkles"),
  (0x2733, "eight_spoked_asterisk eight_pointed_black_star"),
  (0x2744, "snowflake   sparkle     x  negative_squared_cross_mark     question"),
  (0x2754, "grey_question grey_exclamation  exclamation"), (0x2763, "heart_exclamation heart"),
  (0x2795, "heavy_plus_sign heavy_minus_sign heavy_division_sign"), (0x27A1, "arrow_right"),
  (0x27B0, "curly_loop"), (0x27BF, "loop"), (0x2934, "arrow_heading_up arrow_heading_down"),
  (0x2B05, "arrow_left arrow_up arrow_down"), (0x2B1B, "black_large_square white_large_square"),
  (0x2B50, "star     o"), (0x1F004, "mahjong"), (0x1F0CF, "black_joker"),
  (0x1F191, "cl cool free id new ng ok sos up vs"), (0x1F201, "koko sa"), (0x1F21A, "u7121"),
  (0x1F22F, "u6307   u7981 u7a7a u5408 u6e80 u6709 u6708 u7533 u5272 u55b6"),
  (0x1F250, "ideograph_advantage accept"),
  (0x1F300, "cyclone foggy closed_umbrella night_with_stars sunrise_over_mountains sunrise"),
  (0x1F306, "city_sunset city_sunrise rainbow bridge_at_night ocean volcano milky_way"),
  (0x1F30D, "earth_africa earth_americas earth_asia globe_with_meridians new_moon"),
  (0x1F312, "waxing_crescent_moon first_quarter_moon moon full_moon waning_gibbous_moon"),
  (0x1F317, "last_quarter_moon waning_crescent_moon crescent_moon new_moon_with_face"),
  (0x1F31B, "first_quarter_moon_with_face last_quarter_moon_with_face full_moon_with_face"),
  (0x1F31E, "sun_with_face star2 stars thermometer   white_sun_small_cloud white_sun_cloud"),
  (0x1F326, "white_sun_rain_cloud cloud_rain cloud_snow cloud_lightning cloud_tornado fog"),
  (0x1F32C, "wind_blowing_face hotdog taco burrito chestnut seedling evergreen_tree"),
  (0x1F333, "deciduous_tree palm_tree cactus hot_pepper tulip cherry_blossom rose hibiscus"),
  (0x1F33B, "sunflower blossom corn ear_of_rice herb four_leaf_clover maple_leaf"),
  (0x1F342, "fallen_leaf leaves mushroom tomato eggplant grapes melon watermelon tangerine"),
  (0x1F34B, "lemon banana pineapple apple green_apple pear peach cherries strawberry"),
  (0x1F354, "hamburger pizza meat_on_bone poultry_leg rice_cracker rice_ball rice curry"),
  (0x1F35C, "ramen spaghetti bread fries sweet_potato dango oden sushi fried_shrimp"),
  (0x1F365, "fish_cake icecream shaved_ice ice_cream doughnut cookie chocolate_bar candy"),
  (0x1F36D, "lollipop custard honey_pot cake bento stew cooking fork_and_knife tea sake"),
  (0x1F377, "wine_glass cocktail tropical_drink beer beers baby_bottle fork_knife_plate"),
  (0x1F37E, "champagne popcorn ribbon gift birthday jack_o_lantern christmas_tree santa"),
  (0x1F386, "fireworks sparkler balloon tada confetti_ball tanabata_tree crossed_flags"),
  (0x1F38D, "bamboo dolls flags wind_chime rice_scene school_satchel mortar_board"),
  (0x1F396, "military_medal reminder_ribbon  microphone2 level_slider control_knobs"),
  (0x1F39E, "film_frames tickets carousel_horse ferris_wheel roller_coaster"),
  (0x1F3A3, "fishing_pole_and_fish microphone movie_camera cinema headphones art tophat"),
  (0x1F3AA, "circus_tent ticket clapper performing_arts video_game dart slot_machine 8ball"),
  (0x1F3B2, "game_die bowling flower_playing_cards musical_note notes saxophone guitar"),
  (0x1F3B9, "musical_keyboard trumpet violin musical_score running_shirt_with_sash tennis"),
  (0x1F3BF, "ski basketball checkered_flag snowboarder person_running person_surfing"),
  (0x1F3C5, "sports_medal trophy horse_racing football rugby_football person_swimming"),
  (0x1F3CB, "person_lifting_weights person_golfing motorcycle race_car cricket_bat_and_ball"),
  (0x1F3D0, "volleyball field_hockey_stick_and_ball ice_hockey_stick_and_puck")]

/-- Part 2 of 3 of `emojiNames`. -/
def emojiNamesPartB : List Stretch := [
  (0x1F3D3, "table_tennis_paddle_and_ball mountain_snow camping beach construction_site"),
  (0x1F3D8, "homes cityscape house_abandoned classical_building desert island park stadium"),
  (0x1F3E0, "house house_with_garden office post_office european_post_office hospital bank"),
  (0x1F3E7, "atm hotel love_hotel convenience_store school department_store factory lantern"),
  (0x1F3EF, "japanese_castle european_castle   flag_white flag_black rosette  label"),
  (0x1F3F8, "badminton_racquet_and_shuttlecock bow_and_arrow amphora      rat mouse2 ox"),
  (0x1F403, "water_buffalo cow2 tiger2 leopard rabbit2 cat2 dragon crocodile whale2 snail"),
  (0x1F40D, "snake racehorse ram goat sheep monkey rooster chicken dog2 pig2 boar elephant"),
  (0x1F419, "octopus shell bug ant bee beetle fish tropical_fish blowfish turtle"),
  (0x1F423, "hatching_chick baby_chick hatched_chick bird penguin koala poodle"),
  (0x1F42A, "dromedary_camel two_hump_camel flipper mouse cow_face tiger_face rabbit_face"),
  (0x1F431, "cat dragon_face whale horse_face monkey_face dog pig_face frog hamster wolf"),
  (0x1F43B, "bear panda_face pig_nose feet chipmunk eyes eye ear nose lips tongue"),
  (0x1F446, "point_up_2 point_down point_left point_right punch wave ok_hand thumbsup"),
  (0x1F44E, "thumbsdown clap open_hands crown womans_hat eyeglasses necktie shirt jeans"),
  (0x1F457, "dress kimono bikini womans_clothes purse handbag pouch mans_shoe athletic_shoe"),
  (0x1F460, "high_heel sandal boot footprints bust_in_silhouette busts_in_silhouette boy"),
  (0x1F467, "girl man woman family couple two_men_holding_hands two_women_holding_hands"),
  (0x1F46E, "police_officer dancers bride_with_veil blond_haired_person man_with_gua_pi_mao"),
  (0x1F473, "person_wearing_turban older_man older_woman baby construction_worker princess"),
  (0x1F479, "japanese_ogre japanese_goblin ghost angel alien space_invader imp skull"),
  (0x1F481, "person_tipping_hand guard dancer lipstick nail_care person_getting_massage"),
  (0x1F487, "person_getting_haircut barber syringe pill kiss_mark love_letter ring gem"),
  (0x1F48F, "couplekiss bouquet couple_with_heart wedding heartbeat broken_heart two_hearts"),
  (0x1F496, "sparkling_heart heartpulse cupid blue_heart green_heart yellow_heart"),
  (0x1F49C, "purple_heart gift_heart revolving_hearts heart_decoration"),
  (0x1F4A0, "diamond_shape_with_a_dot_inside bulb anger bomb zzz boom sweat_drops droplet"),
  (0x1F4A8, "dash poop muscle dizzy speech_balloon thought_balloon white_flower 100"),
  (0x1F4B0, "moneybag currency_exchange heavy_dollar_sign credit_card yen dollar euro pound"),
  (0x1F4B8, "money_with_wings chart seat computer briefcase minidisc floppy_disk cd dvd"),
  (0x1F4C1, "file_folder open_file_folder page_with_curl page_facing_up date"),
  (0x1F4C6, "tear_off_calendar card_index chart_with_upwards_trend"),
  (0x1F4C9, "chart_with_downwards_trend bar_chart clipboard pushpin round_pushpin paperclip"),
  (0x1F4CF, "straight_ruler triangular_ruler bookmark_tabs ledger notebook"),
  (0x1F4D4, "notebook_with_decorative_cover closed_book book green_book blue_book"),
  (0x1F4D9, "orange_book books name_badge scroll pencil telephone_receiver pager fax"),
  (0x1F4E1, "satellite_antenna loudspeaker mega outbox_tray inbox_tray package e_mail"),
  (0x1F4E8, "incoming_envelope envelope_with_arrow mailbox_closed mailbox mailbox_with_mail"),
  (0x1F4ED, "mailbox_with_no_mail postbox postal_horn newspaper iphone calling"),
  (0x1F4F3, "vibration_mode mobile_phone_off no_mobile_phones signal_strength camera"),
  (0x1F4F8, "camera_with_flash video_camera tv radio vhs projector  prayer_beads"),
  (0x1F500, "twisted_rightwards_arrows repeat repeat_one arrows_clockwise"),
  (0x1F504, "arrows_counterclockwise low_brightness high_brightness mute speaker sound"),
  (0x1F50A, "loud_sound battery electric_plug mag mag_right lock_with_ink_pen"),
  (0x1F510, "closed_lock_with_key key lock unlock bell no_bell bookmark link radio_button"),
  (0x1F519, "back end on soon top underage ten capital_abcd abcd 1234 symbols abc fire"),
  (0x1F526, "flashlight wrench hammer nut_and_bolt knife gun microscope telescope"),
  (0x1F52E, "crystal_ball six_pointed_star beginner trident black_square_button"),
  (0x1F533, "white_square_button red_circle large_blue_circle large_orange_diamond"),
  (0x1F537, "large_blue_diamond small_orange_diamond small_blue_diamond small_red_triangle"),
  (0x1F53B, "small_red_triangle_down arrow_up_small arrow_down_small"),
  (0x1F549, "om_symbol dove kaaba mosque synagogue menorah_with_nine_branches  clock1"),
  (0x1F551, "clock2 clock3 clock4 clock5 clock6 clock7 clock8 clock9 clock10 clock11"),
  (0x1F55B, "clock12 clock130 clock230 clock330 clock430 clock530 clock630 clock730"),
  (0x1F563, "clock830 clock930 clock1030 clock1130 clock1230"),
  (0x1F56F, "candle clock   hole levitate detective dark_sunglasses spider spider_web"),
  (0x1F579, "joystick man_dancing"),
  (0x1F587, "paperclips   pen_ballpoint pen_fountain paintbrush crayon   hand_splayed"),
  (0x1F595, "middle_finger raised_hand_with_part_between_middle_and_ring_fingers"),
  (0x1F5A4, "black_heart desktop   printer"), (0x1F5B1, "mouse_three_button trackball"),
  (0x1F5BC, "frame_photo      dividers card_box file_cabinet"),
  (0x1F5D1, "wastebasket notepad_spiral calendar_spiral"),
  (0x1F5DC, "compression key2 newspaper2   dagger  speaking_head     speech_left"),
  (0x1F5EF, "anger_right    ballot_box"),
  (0x1F5FA, "map mount_fuji tokyo_tower statue_of_liberty map_of_japan moyai grinning grin"),
  (0x1F602, "joy smiley smile sweat_smile laughing innocent smiling_imp wink blush yum"),
  (0x1F60C, "relieved heart_eyes sunglasses smirk neutral_face expressionless unamused"),
  (0x1F613, "sweat pensive confused confounded kissing kissing_heart kissing_smiling_eyes"),
  (0x1F61A, "kissing_closed_eyes stuck_out_tongue stuck_out_tongue_winking_eye"),
  (0x1F61D, "stuck_out_tongue_closed_eyes disappointed worried angry rage cry persevere"),
  (0x1F624, "triumph disappointed_relieved frowning anguished fearful weary sleepy"),
  (0x1F62B, "tired_face grimacing sob open_mouth hushed cold_sweat scream astonished"),
  (0x1F633, "flushed sleeping dizzy_face no_mouth mask smile_cat joy_cat smiley_cat"),
  (0x1F63B, "heart_eyes_cat smirk_cat kissing_cat pouting_cat crying_cat_face scream_cat"),
  (0x1F641, "slight_frown slight_smile upside_down rolling_eyes person_gesturing_no")]

/-- Part 3 of 3 of `emojiNames`. -/
def emojiNamesPartC : List Stretch := [
  (0x1F646, "person_gesturing_ok person_bowing see_no_evil hear_no_evil speak_no_evil"),
  (0x1F64B, "person_raising_hand raised_hands person_frowning person_pouting pray"),
  (0x1F680, "rocket helicopter steam_locomotive railway_car bullettrain_side"),
  (0x1F685, "bullettrain_front train2 metro light_rail station tram tram_car bus"),
  (0x1F68D, "oncoming_bus trolleybus busstop minibus ambulance fire_engine police_car"),
  (0x1F694, "oncoming_police_car taxi oncoming_taxi red_car oncoming_automobile blue_car"),
  (0x1F69A, "truck articulated_lorry tractor monorail mountain_railway suspension_railway"),
  (0x1F6A0, "mountain_cableway aerial_tramway ship person_rowing_boat speedboat"),
  (0x1F6A5, "traffic_light vertical_traffic_light construction rotating_light"),
  (0x1F6A9, "triangular_flag_on_post door no_entry_sign smoking no_smoking"),
  (0x1F6AE, "put_litter_in_its_place do_not_litter potable_water non_potable_water bike"),
  (0x1F6B3, "no_bicycles person_biking person_mountain_biking person_walking no_pedestrians"),
  (0x1F6B8, "children_crossing mens womens restroom baby_symbol toilet wc shower bath"),
  (0x1F6C1, "bathtub passport_control customs baggage_claim left_luggage      couch"),
  (0x1F6CC, "sleeping_accommodation shopping_bags bellhop bed place_of_worship"),
  (0x1F6D1, "octagonal_sign shopping_cart   hindu_temple hut elevator     wireless"),
  (0x1F6DD, "playground_slide wheel ring_buoy tools shield oil motorway railway_track"),
  (0x1F6E5, "motorboat    airplane_small  airplane_departure airplane_arriving"),
  (0x1F6F0, "satellite_orbital   cruise_ship scooter motor_scooter canoe sled flying_saucer"),
  (0x1F6F9, "skateboard auto_rickshaw pickup_truck roller_skate"),
  (0x1F7E0, "orange_circle yellow_circle green_circle purple_circle brown_circle red_square"),
  (0x1F7E6, "blue_square orange_square yellow_square green_square purple_square"),
  (0x1F7EB, "brown_square     heavy_equals_sign"),
  (0x1F90C, "pinched_fingers white_heart brown_heart pinching_hand zipper_mouth money_mouth"),
  (0x1F912, "thermometer_face nerd thinking head_bandage robot hugging metal call_me"),
  (0x1F91A, "raised_back_of_hand left_facing_fist right_facing_fist handshake"),
  (0x1F91E, "fingers_crossed love_you_gesture cowboy clown nauseated_face rofl"),
  (0x1F924, "drooling_face lying_face person_facepalming sneezing_face"),
  (0x1F928, "face_with_raised_eyebrow star_struck zany_face shushing_face"),
  (0x1F92C, "face_with_symbols_on_mouth face_with_hand_over_mouth face_vomiting"),
  (0x1F92F, "exploding_head pregnant_woman breast_feeding palms_up_together selfie prince"),
  (0x1F935, "man_in_tuxedo mrs_claus person_shrugging person_doing_cartwheel"),
  (0x1F939, "person_juggling person_fencing  people_wrestling person_playing_water_polo"),
  (0x1F93E, "person_playing_handball diving_mask wilted_flower drum champagne_glass"),
  (0x1F943, "tumbler_glass spoon goal_net  first_place second_place third_place"),
  (0x1F94A, "boxing_glove martial_arts_uniform curling_stone lacrosse softball flying_disc"),
  (0x1F950, "croissant avocado cucumber bacon potato carrot french_bread salad"),
  (0x1F958, "shallow_pan_of_food stuffed_flatbread egg milk peanuts kiwi pancakes dumpling"),
  (0x1F960, "fortune_cookie takeout_box chopsticks bowl_with_spoon cup_with_straw coconut"),
  (0x1F966, "broccoli pie pretzel cut_of_meat sandwich canned_food leafy_green mango"),
  (0x1F96E, "moon_cake bagel smiling_face_with_3_hearts yawning_face smiling_face_with_tear"),
  (0x1F973, "partying_face woozy_face hot_face cold_face ninja disguised_face"),
  (0x1F979, "face_holding_back_tears pleading_face sari lab_coat goggles hiking_boot"),
  (0x1F97F, "flat_shoe crab lion_face scorpion turkey unicorn eagle duck bat shark owl fox"),
  (0x1F98B, "butterfly deer gorilla lizard rhino shrimp squid giraffe zebra hedgehog"),
  (0x1F995, "sauropod t_rex cricket kangaroo llama peacock hippopotamus parrot raccoon"),
  (0x1F99E, "lobster mosquito microbe badger swan mammoth dodo sloth otter orangutan skunk"),
  (0x1F9A9, "flamingo oyster beaver bison seal guide_dog probing_cane red_hair curly_hair"),
  (0x1F9B2, "bald white_hair bone leg foot tooth superhero supervillain safety_vest"),
  (0x1F9BB, "ear_with_hearing_aid motorized_wheelchair manual_wheelchair mechanical_arm"),
  (0x1F9BF, "mechanical_leg cheese cupcake salt beverage_box garlic onion falafel waffle"),
  (0x1F9C8, "butter mate ice bubble_tea troll person_standing person_kneeling deaf_person"),
  (0x1F9D0, "face_with_monocle adult child older_adult bearded_person woman_with_headscarf"),
  (0x1F9D6, "person_in_steamy_room person_climbing person_in_lotus_position mage fairy"),
  (0x1F9DB, "vampire merperson elf genie zombie brain orange_heart billed_cap scarf gloves"),
  (0x1F9E5, "coat socks red_envelope firecracker jigsaw test_tube petri_dish dna compass"),
  (0x1F9EE, "abacus fire_extinguisher toolbox brick magnet luggage lotion_bottle thread"),
  (0x1F9F6, "yarn safety_pin teddy_bear broom basket roll_of_paper soap sponge receipt"),
  (0x1F9FF, "nazar_amulet"),
  (0x1FA70, "ballet_shoes one_piece_swimsuit briefs shorts thong_sandal light_blue_heart"),
  (0x1FA76, "grey_heart pink_heart drop_of_blood adhesive_bandage stethoscope x_ray crutch"),
  (0x1FA80, "yo_yo kite parachute boomerang magic_wand pinata nesting_dolls maracas flute"),
  (0x1FA90, "ringed_planet chair razor axe diya_lamp banjo military_helmet accordion"),
  (0x1FA98, "long_drum coin carpentry_saw screwdriver ladder hook mirror window plunger"),
  (0x1FAA1, "sewing_needle knot bucket mouse_trap toothbrush headstone placard rock"),
  (0x1FAA9, "mirror_ball identification_card low_battery hamsa folding_hand_fan hair_pick"),
  (0x1FAAF, "khanda fly worm beetle cockroach potted_plant wood feather lotus coral"),
  (0x1FAB9, "empty_nest nest_with_eggs hyacinth jellyfish wing  goose anatomical_heart"),
  (0x1FAC1, "lungs people_hugging pregnant_man pregnant_person person_with_crown"),
  (0x1FACE, "moose donkey blueberries bell_pepper olive flatbread tamale fondue teapot"),
  (0x1FAD7, "pouring_liquid beans jar ginger_root pea_pod     melting_face saluting_face"),
  (0x1FAE2, "face_with_open_eyes_and_hand_over_mouth face_with_peeking_eye"),
  (0x1FAE4, "face_with_diagonal_mouth dotted_line_face biting_lip bubbles shaking_face"),
  (0x1FAF0, "hand_with_index_finger_and_thumb_crossed rightwards_hand leftwards_hand"),
  (0x1FAF3, "palm_down_hand palm_up_hand index_pointing_at_the_viewer heart_hands"),
  (0x1FAF7, "leftwards_pushing_hand rightwards_pushing_hand")]

/-- Names of emoji, without the colons. -/
def emojiNames : List Stretch :=
  emojiNamesPartA ++ emojiNamesPartB ++ emojiNamesPartC

end ApiWiring.Text.Spelling
