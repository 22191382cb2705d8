/-! How signs, numbers and kana are written in ASCII, by their names or shapes. -/

namespace ManifestMigration.Name

/-- The rows of signs, numbers and kana, as those of letters. -/
def signRows : List (Nat × String) := [
  (0x200C, "_ _ _ _"),
  (0x202A, "_ _ _ _ _ - -0 -00"),
  (0x204A, "7 pp"),
  (0x2060, "_ _ _ _ _ - _ _ _ _ _ _ _ _ _ _ 0 i _ _ 4 5 6 7 8 9"),
  (0x207F, "n 0 1 2 3 4 5 6 7 8 9"),
  (0x2090, "a e o x e h k l m n p s t"),
  (0x20A0, "ecu cl cr ff l mil n pts rs w ns d eur k t dr pf p g a hrn c lt sm t rs tl m manat"),
  (0x20BD, "rb gel btc c"),
  (0x20D0, "_ _ _ _ _ _ _ _ _ _ _ _ _ _ _ _ _ _ _ _ _ _ _ _ _ _ _ _ _ _ _ _ _"),
  (0x2100, "a-c a-s c c cl c-o c-u e g f g h h h h h i i l l lb n no -p- p p q r r r rx r -sm-"),
  (0x2121, "tel tm v z oz z mho z i k a b c e e e f f m o a b g d information-source- q fax p g"),
  (0x213E, "g p s g l l y d d e i j pl - p a-s f sh 1-7 1-9 1-10 1-3 2-3 1-5 2-5 3-5 4-5 1-6 5-6"),
  (0x215B, "1-8 3-8 5-8 7-8 1- i ii iii iv v vi vii viii ix x xi xii l c d m i ii iii iv v vi"),
  (0x2176, "vii viii ix x xi xii l c d m cd d m cd c vi l c - 0-3"),
  (0x2200, "v c d e e 0 - d e e e e e e - p u s"),
  (0x221A, "sqrt cbrt 4rt - inf l"),
  (0x2228, "v - v s ss sss"),
  (0x2300, "0"),
  (0x231A, "watch- hourglass-"),
  (0x2327, "x keyboard-"),
  (0x2336, "i"),
  (0x234C, "v"),
  (0x2357, "v"),
  (0x2371, "v - i r w a e i w a"),
  (0x2388, "helm-symbol-"),
  (0x23B2, "s"),
  (0x23CF, "eject-"),
  (0x23D8, "4"),
  (0x23E8, "e fast-forward- rewind- arrow-double-up- arrow-double-down- track-next-"),
  (0x23EE, "track-previous- play-pause- alarm-clock- stopwatch- timer- hourglass-flowing-sand-"),
  (0x23F7, "v pause-button- stop-button- record-button- power- power-on-off- on sleep- - nul soh"),
  (0x2402, "stx etx eot enq ack bel bs ht lf vt ff cr so si dle dc1 dc2 dc3 dc4 nak syn etb can"),
  (0x2419, "em sub esc fs gs rs us sp del b - nl"),
  (0x2446, "_"),
  (0x2460, "1 2 3 4 5 6 7 8 9 10 11 12 13 14 15 16 17 18 19 20 -1- -2- -3- -4- -5- -6- -7- -8-"),
  (0x247C, "-9- -10- -11- -12- -13- -14- -15- -16- -17- -18- -19- -20- 1- 2- 3- 4- 5- 6- 7- 8-"),
  (0x2490, "9- 10- 11- 12- 13- 14- 15- 16- 17- 18- 19- 20- -a- -b- -c- -d- -e- -f- -g- -h- -i-"),
  (0x24A5, "-j- -k- -l- -m- -n- -o- -p- -q- -r- -s- -t- -u- -v- -w- -x- -y- -z- a b c d e f g h"),
  (0x24BE, "i j k l m- n o p q r s t u v w x y z a b c d e f g h i j k l m n o p q r s t u v w x"),
  (0x24E8, "y z 0 11 12 13 14 15 16 17 18 19 20 1 2 3 4 5 6 7 8 9 10 0"),
  (0x2573, "x"),
  (0x25BC, "v v v v"),
  (0x25EF, "o"),
  (0x25F4, "o o o o"),
  (0x2600, "_ cloud- umbrella- snowman- comet-"),
  (0x260E, "phone- telephone- - ballot-box-with-check- x x umbrella-with-rain-drops- coffee-"),
  (0x2618, "shamrock-"),
  (0x261D, "point-up- - - skull-and-crossbones- - radioactive-sign- biohazard-"),
  (0x2626, "orthodox-cross-"),
  (0x262A, "star-and-crescent- farsi- - - peace-symbol- yin-yang- qian dui li zhen xun kan gen"),
  (0x2637, "kun wheel-of-dharma- white-frowning-face- relaxed-"),
  (0x2640, "female-sign- - male-sign-"),
  (0x2647, "pluto aries- taurus- gemini- cancer- leo- virgo- libra- scorpius- sagittarius-"),
  (0x2651, "capricorn- aquarius- pisces- k q r b n p k q r b n p spades- - - clubs- - hearts-"),
  (0x2666, "diamonds- - hotsprings-"),
  (0x2673, "-1- -2- -3- -4- -5- -6- -7- recycling- recycle- - - infinity- wheelchair- 1 2 3 4 5"),
  (0x2685, "6"),
  (0x268C, "taiyang shaoyin shaoyang taiyin - - hammer-and-pick- anchor- crossed-swords-"),
  (0x2695, "medical-symbol- scales- alembic- - gear- - atom- fleur-de-lis-"),
  (0x26A0, "warning- zap-"),
  (0x26A9, "male-sign-with-stroke-horizontal- white-circle- black-circle-"),
  (0x26B0, "coffin- funeral-urn-"),
  (0x26BD, "soccer- baseball-"),
  (0x26C4, "snowman-without-snow- partly-sunny- - - thunder-cloud-and-rain-"),
  (0x26CD, "disabled-car- ophiuchus- pick- - helmet-with-white-cross- - chains- no-entry-"),
  (0x26E9, "shinto-shrine- church-"),
  (0x26F0, "mountain- umbrella-on-ground- fountain- golf- ferry- boat- - skier- ice-skate-"),
  (0x26F9, "person-with-ball- tent- - - fuelpump-"),
  (0x2701, "scissors- scissors- scissors- scissors- white-check-mark- - - airplane- envelope-"),
  (0x270A, "fist- hand- v- writing-hand- pencil- pencil2- pencil- nib- black-nib- ok"),
  (0x2714, "heavy-check-mark- x x x x"),
  (0x2721, "star-of-david-"),
  (0x2728, "sparkles-"),
  (0x274C, "x- - negative-squared-cross-mark-"),
  (0x2763, "heart-exclamation- heart- black-heart-"),
  (0x2776, "1 2 3 4 5 6 7 8 9 10 1 2 3 4 5 6 7 8 9 10 1 2 3 4 5 6 7 8 9 10 - heavy-plus-sign-"),
  (0x2796, "heavy-minus-sign- heavy-division-sign-"),
  (0x27A1, "arrow-right-"),
  (0x27B0, "curly-loop-"),
  (0x27BF, "loop-"),
  (0x2801, "a 1 b - k 2 l - c i f - m s p - e 3 h 9 o 6 r - d j g - n t q - - 5 - - u 8 v"),
  (0x282D, "x"),
  (0x2832, "4 - 0 z 7"),
  (0x283A, "w - - y - - -d7- -d17- -d27- -d127- -d37- -d137- -d237- -d1237- -d47- -d147- -d247-"),
  (0x284B, "-d1247- -d347- -d1347- -d2347- -d12347- -d57- -d157- -d257- -d1257- -d357- -d1357-"),
  (0x2856, "-d2357- -d12357- -d457- -d1457- -d2457- -d12457- -d3457- -d13457- -d23457- -d123457-"),
  (0x2860, "-d67- -d167- -d267- -d1267- -d367- -d1367- -d2367- -d12367- -d467- -d1467- -d2467-"),
  (0x286B, "-d12467- -d3467- -d13467- -d23467- -d123467- -d567- -d1567- -d2567- -d12567- -d3567-"),
  (0x2875, "-d13567- -d23567- -d123567- -d4567- -d14567- -d24567- -d124567- -d34567- -d134567-"),
  (0x287E, "-d234567- -d1234567- -d8- -d18- -d28- -d128- -d38- -d138- -d238- -d1238- -d48-"),
  (0x2889, "-d148- -d248- -d1248- -d348- -d1348- -d2348- -d12348- -d58- -d158- -d258- -d1258-"),
  (0x2894, "-d358- -d1358- -d2358- -d12358- -d458- -d1458- -d2458- -d12458- -d3458- -d13458-"),
  (0x289E, "-d23458- -d123458- -d68- -d168- -d268- -d1268- -d368- -d1368- -d2368- -d12368-"),
  (0x28A8, "-d468- -d1468- -d2468- -d12468- -d3468- -d13468- -d23468- -d123468- -d568- -d1568-"),
  (0x28B2, "-d2568- -d12568- -d3568- -d13568- -d23568- -d123568- -d4568- -d14568- -d24568-"),
  (0x28BB, "-d124568- -d34568- -d134568- -d234568- -d1234568- -d78- -d178- -d278- -d1278- -d378-"),
  (0x28C5, "-d1378- -d2378- -d12378- -d478- -d1478- -d2478- -d12478- -d3478- -d13478- -d23478-"),
  (0x28CF, "-d123478- -d578- -d1578- -d2578- -d12578- -d3578- -d13578- -d23578- -d123578-"),
  (0x28D8, "-d4578- -d14578- -d24578- -d124578- -d34578- -d134578- -d234578- -d1234578- -d678-"),
  (0x28E1, "-d1678- -d2678- -d12678- -d3678- -d13678- -d23678- -d123678- -d4678- -d14678-"),
  (0x28EA, "-d24678- -d124678- -d34678- -d134678- -d234678- -d1234678- -d5678- -d15678- -d25678-"),
  (0x28F3, "-d125678- -d35678- -d135678- -d235678- -d1235678- -d45678- -d145678- -d245678-"),
  (0x28FB, "-d1245678- -d345678- -d1345678- -d2345678- -d12345678-"),
  (0x2934, "arrow-heading-up- arrow-heading-down-"),
  (0x2A0C, "ssss"),
  (0x2B05, "arrow-left- arrow-up- arrow-down-"),
  (0x2B1B, "black-large-square- white-large-square-"),
  (0x2B50, "star-"),
  (0x2B55, "o-"),
  (0x2C00, "a b v g d e zh dz z i i i j k l m n o p r s t u f kh o p sht ts ch sh - - ya kh yu e"),
  (0x2C25, "e yo ye o yo f i o a m c a b v g d e zh dz z i i i j k l m n o p r s t u f kh o p"),
  (0x2C4B, "sht ts ch sh - - ya kh yu e e yo ye o yo f i o a m c l l l p r a t h h k k z z a m a"),
  (0x2C70, "a v w w v h h ph e r o e j v s z a a v v g g d d e e s s z z i i th th i i k k l l m"),
  (0x2C99, "m n n x x o o p p r r s s t t y y f f ch ch ps ps o o"),
  (0x2CB6, "e e k k n n n n o o s s sh sh sh sh sh sh kh kh h h h h h h h h h h h h g g j j sh"),
  (0x2CDB, "sh sh sh ng ng ny ny w w"),
  (0x2CEB, "shei shei - - _ _ _ khei khei"),
  (0x2D00, "a b g d e v z t i k- l m n o p- zh r s t- u p k gh q- sh ch ts dz ts- ch- kh j h ey"),
  (0x2D22, "y w q o - yn"),
  (0x2D2D, "aen - - a b bh g gh j j d dh d dh e f k k kh h h h h - kh kh q q i zh zh zh l m n gn"),
  (0x2D51, "ng p u r r gh gh gh s s sh t th ch t v w y z z z e o"),
  (0x2D6F, "w"),
  (0x2D7F, "_ lwa mwa rwa swa shwa bwa twa cwa nwa nywa wa zwa dwa dwa jwa thwa chwa phwa pwa"),
  (0x2D93, "gwa gwi gwe gwi"),
  (0x2DA0, "se su si sa se s so - ce cu ci ca ce c co - ze zu zi za ze z zo - che chu chi cha"),
  (0x2DBC, "che ch cho - qye qyu qyi qya qye qy qyo - kye kyu kyi kya kye ky kyo - xye xyu xyi"),
  (0x2DD3, "xya xye xy xyo - gye gyu gyi gya gye gy gyo - b v g d zh z k l m n o p r s t kh ts"),
  (0x2DF1, "ch sh shch f st a e dj u e yu ya e o yo"),
  (0x2E81, "chang yi gui yi ren jiong ji dao dao bu jie xiao xiao wu wang wang wang si yao ji ji"),
  (0x2E96, "xin xin shou pu - ji mao yue dai mu min shui shui huo zhao zhao pan niu quan wang pi"),
  (0x2EAB, "mu shi shi zhu si si wang wang wang wang wang yang yang yang lao yu yu rou jiu cao"),
  (0x2EBF, "cao cao hu yi xi xi jian jiao jiao yan bei zu che chuo chuo chuo yi jin chang chang"),
  (0x2ED3, "chang men fu fu yu qing wei ye feng fei shi shi shi shi shou ma gu gui yu niao lu"),
  (0x2EE8, "mai huang min qi qi chi chi long long gui gui gui"),
  (0x2F00, "yi gun zhu pie yi jue er tou ren er ru ba jiong mi bing ji qian dao li bao bi fang"),
  (0x2F16, "xi shi bo jie chang si you kou wei tu shi zhi sui xi da nu zi mian cun xiao you shi"),
  (0x2F2C, "che shan chuan gong ji jin gan yao guang yin gong yi gong ji shan chi xin ge hu shou"),
  (0x2F40, "zhi pu wen dou jin fang wu ri yue yue mu qian zhi dai shu wu bi mao shi qi shui huo"),
  (0x2F56, "zhua fu yao pan pian ya niu quan xuan yu gua wa gan sheng yong tian pi ne bo bai pi"),
  (0x2F6B, "min mu mao shi shi shi rou he xue li zhu mi mi fou wang yang yu lao er lei er yu rou"),
  (0x2F82, "chen zi zhi jiu she chuan zhou gen se cao hu chong xue xing yi ya jian jiao yan gu"),
  (0x2F96, "dou shi zhi bei chi zou zu shen che xin chen chuo yi you bian li jin chang men fu li"),
  (0x2FAB, "zhui yu qing fei mian ge wei jiu yin ye feng fei shi shou xiang ma gu gao biao dou"),
  (0x2FBF, "chang ge gui yu niao lu lu mai ma huang shu hei zhi mian ding gu shu bi qi chi long"),
  (0x2FD4, "gui yue"),
  (0x3004, "-jis- - - 0"),
  (0x3013, "x-"),
  (0x3021, "1 2 3 4 5 6 7 8 9 _ _ _ _ _ _"),
  (0x3035, "_ - - -10- -20- -30- - masu part-alternation-mark-"),
  (0x3041, "a a i i u u e e o o ka ga ki gi ku gu ke ge ko go sa za si zi su zu se ze so zo ta"),
  (0x3060, "da ti di tu tu du te de to do na ni nu ne no ha ba pa hi bi pi hu bu pu he be pe ho"),
  (0x307C, "bo po ma mi mu me mo ya ya yu yu yo yo ra ri ru re ro wa wa wi we wo n vu ka ke"),
  (0x309F, "yori - a a i i u u e e o o ka ga ki gi ku gu ke ge ko go sa za si zi su zu se ze so"),
  (0x30BE, "zo ta da ti di tu tu du te de to do na ni nu ne no ha ba pa hi bi pi hu bu pu he be"),
  (0x30DA, "pe ho bo po ma mi mu me mo ya ya yu yu yo yo ra ri ru re ro wa wa wi we wo n vu ka"),
  (0x30F6, "ke va vi ve vo"),
  (0x30FF, "koto"),
  (0x3105, "b p m f d t n l g k h j q x zh ch sh r z c s a o e eh ai ei au ou an en ang eng er i"),
  (0x3128, "u iu v ng gn ih e nn - g gg gs n nj nh d dd r lg lm lb ls lt lp rh m b bb bs s ss _"),
  (0x3148, "j jj c k t p h a ae ya yae eo e yeo ye o wa wae oe yo u weo we wi yu eu yi i _ nn nd"),
  (0x3167, "ns nz lgs ld lbs lz lq mb ms mz mn bg _ bsg bst bj bt bn bbn sg sn sd sb sj z _ n ns"),
  (0x3183, "nz pn hh q yo-ya yo-yae yo-i yu-yeo yu-ye yu-i u u-i - _ _ _ _ _ _ _ _ _ _ _ _ _ _ _"),
  (0x319F, "_ bu zi ji gu ee enn oo onn ir ann inn unn im ngg ainn aunn am om ong innn p t k h"),
  (0x31B8, "gh l zh ng gw kw o ah"),
  (0x31F0, "ku shi su to nu ha hi fu he ho mu ra ri ru re ro -g- -n- -d- -r- -m- -b- -s- - -j-"),
  (0x3209, "-c- -k- -t- -p- -h- -ga- -na- -da- -ra- -ma- -ba- -sa- -a- -ja- -ca- -ka- -ta- -pa-"),
  (0x321B, "-ha- -ju- -ojeon- -o-hu- - -1- -2- -3- -4- -5- -6- -7- -8- -9- -10- -yue- -huo-"),
  (0x322C, "-shui- -mu- -jin- -tu- -ri- -zhu- -you- -she- -ming- -te- -cai- -zhu- -lao- -dai-"),
  (0x323A, "-hu- -xue- -jian- -qi- -zi- -xie- -ji- -xiu- - - wen you wen ji 10 20 30 40 50 60 70"),
  (0x324F, "80 pte 21 22 23 24 25 26 27 28 29 30 31 32 33 34 35 -g- -n- -d- -r- -m- -b- -s-"),
  (0x3268, "-j- -c- -k- -t- -p- -h- -ga- -na- -da- -ra- -ma- -ba- -sa- -a- -ja- -ca- -ka- -ta-"),
  (0x327A, "-pa- -ha- chamko jueui u kis- -1- -2- -3- -4- -5- -6- -7- -8- -9- -10- -yue- -huo-"),
  (0x328C, "-shui- -mu- -jin- -tu- -ri- -zhu- -you- -she- -ming- -te- -cai- -zhu- -lao- -mi-"),
  (0x329A, "-nan- -nu- -shi- -you- -yin- -zhu- -xiang- -xiu- -xie- -zheng- -shang- -zhong- -xia-"),
  (0x32A7, "-zuo- -you- -yi- -zong- -xue- -jian- -qi- -zi- -xie- -ye- 36 37 38 39 40 41 42 43 44"),
  (0x32BA, "45 46 47 48 49 50 1m 2m 3m 4m 5m 6m 7m 8m 9m 10m 11m 12m hg erg ev ltd a i u u o ka"),
  (0x32D6, "ki ku ke ko sa si su se so ta ti tu te to na ni nu ne no ha hi hu he ho ma mi mu me"),
  (0x32F2, "mo ya yu yo ra ri ru re ro wa wi we wo reiwa apartment alpha ampere are inning inch"),
  (0x3306, "won escudo acre ounce ohm kai-ri carat calorie gallon gamma giga guinea curie"),
  (0x3313, "guilder kilo kilogram kilometer kilowatt gram gram-ton cruzeiro krone case koruna"),
  (0x331E, "co-op cycle centime shilling centi cent dozen desi dollar ton nano knot heights"),
  (0x332B, "percent parts barrel piaster picul pico building farad feet bushel franc hectare"),
  (0x3337, "peso pfennig hertz pence page beta point volt hon pound hall horn micro mile mach"),
  (0x3346, "mark mansion micron milli millibar mega megaton meter yard yard yuan liter lira"),
  (0x3353, "rupee ruble rem roentgen watt 0h 1h 2h 3h 4h 5h 6h 7h 8h 9h 10h 11h 12h 13h 14h 15h"),
  (0x3368, "16h 17h 18h 19h 20h 21h 22h 23h 24h hpa da au bar ov pc dm dm-2 dm-3 iu heisei"),
  (0x337C, "syouwa taisyou meiji inc- pa na microamp ma ka kb mb gb cal kcal pf nf microfarad"),
  (0x338D, "microgram mg kg hz khz mhz ghz thz microliter ml dl kl fm nm micrometer mm cm km"),
  (0x339F, "mm-2 cm-2 m-2 km-2 mm-4 cm-3 m-3 km-3 m-s m-s-2 pa kpa mpa gpa rad rad-s rad-s-2 ps"),
  (0x33B1, "ns microsecond ms pv nv microvolt mv kv mv pw nw microwatt mw kw mw kohm mohm a-m-"),
  (0x33C3, "bq cc cd c-kg co- db gy ha hp in k-k- km kt lm ln log lx mb mil mol ph p-m- ppm pr"),
  (0x33DB, "sr sv wb v-m a-m 1d 2d 3d 4d 5d 6d 7d 8d 9d 10d 11d 12d 13d 14d 15d 16d 17d 18d 19d"),
  (0x33F3, "20d 21d 22d 23d 24d 25d 26d 27d 28d 29d 30d 31d gal")]

end ManifestMigration.Name
