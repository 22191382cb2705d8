/-! How the letters of alphabets are written in ASCII, by their sounds or shapes. -/

namespace ManifestMigration.Name

/-- Code points in ascending order, each with the texts for the characters from there on. A low line
    stands for no text, and a hyphen for one without letters and digits. -/
def letterRows : List (Nat × String) := [
  (0x0080, "_ _ _ _ _ _ _ _ _ _ _ _ _ _ _ _ _ _ _ _ _ _ _ _ _ _ _ _ _ _ _ _ - - c- ps - y- - ss"),
  (0x00A9, "-c- a - - _ -r- - deg - 2 3 - u p - - 1 o - 1-4 1-2 3-4 - a a a a a a ae c e e e e i"),
  (0x00CD, "i i i d n o o o o o x o u u u u y th ss a a a a a a ae c e e e e i i i i d n o o o o"),
  (0x00F6, "o - o u u u u y th y a a a a a a c c c c c c c c d d d d e e e e e e e e e e g g g g"),
  (0x0120, "g g g g h h h h i i i i i i i i i i ij ij j j k k k l l l l l l l l l l n n n n n n"),
  (0x0149, "-n ng ng o o o o o o oe oe r r r r r r s s s s s s s s t t t t t t u u u u u u u u u"),
  (0x0171, "u u u w w y y y z z z z z z s b b b b 6 6 o c c d d d d d 3 - e f f g g hv i i k k l"),
  (0x019B, "l w n n o o o oi oi p p yr 2 2 sh sh t t t t u u y v y y z z zh zh zh zh 2 5 5 ts w"),
  (0x01C4, "dz dz dz lj lj lj nj nj nj a a i i o o u u u u u u u u u u - a a a a ae ae g g g g k"),
  (0x01E9, "k o o o o zh zh j dz dz dz g g hv w n n a a ae ae o o a a a a e e e e i i i i o o o"),
  (0x020F, "o r r r r u u u u s s t t y y h h n d ou ou z z a a e e o o o o o o o o y y l n t j"),
  (0x0238, "db qp a c c l t s z - - b u v e e j j q q r r y y a a a b o c d d e - - e e e e j g"),
  (0x0261, "g g g u y h h i i i l l l lz w w m n n n o oe o f r r r r r r r r r s s j s s t t u"),
  (0x028A, "u v - w y y z z z z"),
  (0x0297, "c - b e g h j k l q - - dz dz dz ts ts tc fn ls lz ww - h h k h j r r r r w y"),
  (0x02C5, "v - v"),
  (0x02D5, "v - - v"),
  (0x02DE, "r x g l s x - _ _ _ _ _ _ _ v"),
  (0x0300, "_ _ _ _ _ _ _ _ _ _ _ _ _ _ _ _ _ _ _ _ _ _ _ _ _ _ _ _ _ _ _ _ _ _ _ _ _ _ _ _ _ _"),
  (0x032A, "_ _ _ _ _ _ _ _ _ _ _ _ _ _ _ _ _ _ _ _ _ _ _ _ _ _ _ _ _ _ _ _ _ _ _ _ _ _ _ _ _ _"),
  (0x0354, "_ _ _ _ _ _ _ _ _ _ _ _ _ _ _ a e i o u c d h m r t v x h h t t _ _ w w - - _ s s s"),
  (0x037F, "j"),
  (0x0384, "_ _ a - e e i - o - u o i a b g d e z e th i k l m n x o p r - s t u ph kh ps o i u"),
  (0x03AC, "a e e i u a b g d e z e th i k l m n x o p r s s t u ph kh ps o i u o u o - b th u u"),
  (0x03D4, "u ph p - q q st st w w q q sp sp sh sh f f kh kh h h g g ch ch ti ti k r c j th e e"),
  (0x03F7, "sh sh s s s r s s s ie io dj gj e dz i yi j lj nj tsh kj i u dzh a b v g d e zh z i"),
  (0x0419, "i k l m n o p r s t u f kh ts ch sh shch - y - e iu ia a b v g d e zh z i i k l m n"),
  (0x043E, "o p r s t u f kh ts ch sh shch - y - e iu ia ie io dj gj e dz i yi j lj nj tsh kj i"),
  (0x045E, "u dzh o o e e ie ie e e ie ie o o io io ks ks ps ps f f y y y y u u o o o o ot ot q"),
  (0x0481, "q -1000- _ _ _ _ _ -100-000- -1-000-000- i i - - r- r- g- g- g- g- g- g- zh- zh- z-"),
  (0x0499, "z- k- k- k- k- k- k- k- k- n- n- ng ng p- p- kh kh s- s- t- t- u u u- u- kh- kh- tts"),
  (0x04B5, "tts ch- ch- ch- ch- h h ch ch ch- ch- - zh zh k- k- l l n- n- n n ch ch m m l a a a"),
  (0x04D3, "a ae ae ie ie"),
  (0x04DC, "zh zh z z dz dz i i i i o o o o o o e e u u u u u u ch ch g g y y g g h h h h d d dj"),
  (0x0503, "dj zj zj dz dz lj lj nj nj sj sj tj tj z z l l lkh lkh rkh rkh a a q q w w q q l l"),
  (0x0522, "nj nj ph ph - - ny ny dzh dzh dch dch l l - a b g d e z e e t- zh i l kh ts k h dz"),
  (0x0542, "gh ch m y n sh o ch- p j rh s v t r ts- w p- k- o f"),
  (0x0560, "a a b g d e z e e t- zh i l kh ts k h dz gh ch m y n sh o ch- p j rh s v t r ts- w"),
  (0x0583, "p- k- o f ew y"),
  (0x058F, "dram - _ _ _ _ _ _ _ _ _ _ _ _ _ _ _ _ _ _ _ _ _ _ _ _ _ _ _ _ _ _ _ - e a o i e e a"),
  (0x05B8, "a o o u - _ - _ - _ _"),
  (0x05C7, "o"),
  (0x05D0, "_ b g d h v z kh t y k k l m m n n s - p p ts ts q r sh t"),
  (0x05EF, "y v oy i"),
  (0x0601, "sn- fn- sf- _ _ cbrt 4rt r -0 -00 af"),
  (0x0610, "_ _ _ _ _ _ _ _ _ _ _ - _"),
  (0x0620, "y - _ - w- _ y- _ b - t th j h kh d dh r z s sh s d t z - g g g i i i _ f q k l m n"),
  (0x0647, "h w - y an un in a u i w _ _ _ _ i u n e e o e u a u- 0 1 2 3 4 5 6 7 8 9"),
  (0x066E, "b q a"),
  (0x0674, "_ - -w -u -y tt tth b t t p th bh -h h ny dy h ch cch dd d d dt dh ddh d d d rr r r"),
  (0x0694, "r r r r j r s s s s s t gh f f f v f ph q q kh k k k ng k g g n g g g l l l l n n n"),
  (0x06BC, "n n h ch hy h h - w oe oe u yu yu w v y y y w _ ny y y- - ae _ _ _ _ _ _ _ _ - _ _ _"),
  (0x06E2, "_ _ _ _ _ _ _ - _ _ _ _ d r 0 1 2 3 4 5 6 7 8 9 sh d gh - -m h"),
  (0x070F, "_ - _ b g g d d h w z h t t y yh k l m n s s - p p s q r sh t bh gh dh a a a a a a e"),
  (0x0737, "e e e i i u u u o _ - - _ _ x q"),
  (0x074D, "zh kh f b b b b b b b h h d d r s"),
  (0x0760, "f f k k k m m n n n l r r s h h s r h a a y y y w w y y h s s k h sh n r b l k - v m"),
  (0x078A, "f dh th l g ny s d z t y p j ch tt hh kh th z sh s d t z - gh q w a aa i ee u oo e"),
  (0x07AD, "ey o oa _ n"),
  (0x07C0, "0 1 2 3 4 5 6 7 8 9 a e i e u o o n n b p t j ch d r r s gb f k l n m ny n h w y ny"),
  (0x07E8, "j ch r _ _ _ _ _ _ _ _ _"),
  (0x07FD, "_"),
  (0x0801, "b g d h w z h t y k l m n s - p ts q r sh t _ _ _ _ - _ _ e e a a a a e e a a a u u"),
  (0x082A, "u u i i i _ _ _"),
  (0x0840, "a b g d h u z h t i k l m n s i p s q r sh t d k - _ _ _"),
  (0x0860, "ng j ny t n n bh r l l s"),
  (0x0870, "a a a a a a a a a a a a a a a a a a a"),
  (0x0886, "y - - n h t t k - - _ _"),
  (0x0898, "_ _ _ _ _ _ _ _ b b j t f q l m y y r w y a d s g w z - k q b p t r y f q n p t t ch"),
  (0x08C2, "k gh q j j l graf - _ _ _ _ _ _ _ _ _ _ _ _ _ _ _ _ _ _ _ _ _ _ _ _ _ _ _ _ _ _ _ _"),
  (0x08EA, "_ _ _ _ _ _ _ _ _ _ _ _ _ _ _ _ _ _ _ _ _ _ m n n h a a aa i ii u uu r l en e e ai"),
  (0x0911, "on o o au k kh g gh ng c ch j jh ny tt tth dd ddh nn t th d dh n nnn p ph b bh m y r"),
  (0x0931, "rr l l lll v sh ss s h o o - - aa i ii u uu r rr en e e ai on o o au _ e a aum"),
  (0x0955, "e u u q khh ghh z dddh rh f yy rr ll l ll - - 0 1 2 3 4 5 6 7 8 9 - - a o o a u u d"),
  (0x0979, "zh y g j - d b - n n h - a aa i ii u uu r rr - - e ai - - o au k kh g gh ng c ch j"),
  (0x099D, "jh ny tt tth dd ddh nn t th d dh n - p ph b bh m y r - l"),
  (0x09B6, "sh ss s h"),
  (0x09BE, "aa i ii u uu r rr - - e ai - - o au _ t"),
  (0x09DC, "rr rh - yy rr ll l ll - - 0 1 2 3 4 5 6 7 8 9 r r"),
  (0x09FC, "m - _ - - m n h - a aa i ii u uu"),
  (0x0A0F, "ee ai - - oo au k kh g gh ng c ch j jh ny tt tth dd ddh nn t th d dh n - p ph b bb m"),
  (0x0A2F, "y r - l ll - v sh - s h"),
  (0x0A3E, "aa i ii u uu"),
  (0x0A47, "ee ai - - oo au _"),
  (0x0A51, "_"),
  (0x0A59, "khh ghh z rr - f"),
  (0x0A66, "0 1 2 3 4 5 6 7 8 9 n h _ _ g-e-o- y"),
  (0x0A81, "n n h - a aa i ii u uu r l en - e ai on - o au k kh g gh ng c ch j jh ny tt tth dd"),
  (0x0AA2, "ddh nn t th d dh n - p ph b bh m ya r - l ll - v sh ss s h"),
  (0x0ABE, "aa i ii u uu r rr en - e ai on - o au _ - - aum"),
  (0x0AE0, "rr l l l - - 0 1 2 3 4 5 6 7 8 9 - rs"),
  (0x0AF9, "zh _ _ _ _ _ _ - n n h - a aa i ii u uu r l - - e ai - - o au k kh g gh ng c ch j jh"),
  (0x0B1E, "ny tt tth dd ddh nn t th d dh n - p ph b bh m y r - l ll - v sh ss s h"),
  (0x0B3E, "aa i ii u uu r r - - e ai - - o au _"),
  (0x0B55, "_"),
  (0x0B5C, "rr rh - yy rr ll l l - - 0 1 2 3 4 5 6 7 8 9 - w 1 2 3 1 2 3"),
  (0x0B82, "n h - a aa i ii u uu"),
  (0x0B8E, "e ee ai - o oo au k"),
  (0x0B99, "ng c - j - ny tt"),
  (0x0BA3, "nn t"),
  (0x0BA8, "n nnn p"),
  (0x0BAE, "m y r rr l ll lll v s ss s h"),
  (0x0BBE, "aa i ii u uu"),
  (0x0BC6, "e ee ai - o oo au _ - - om"),
  (0x0BE6, "0 1 2 3 4 5 6 7 8 9 -10- -100- -1000- n m v p v m r n"),
  (0x0C00, "m n n h m a aa i ii u uu r l - e ee ai - o oo au k kh g gh ng c ch j jh ny tt tth dd"),
  (0x0C22, "ddh nn t th d dh n - p ph b bh m y r rr l ll l v sh ss s h - - _ - aa i ii u uu r rr"),
  (0x0C46, "e ee ai - o oo au _"),
  (0x0C58, "ts dz r - - n - - rr ll l l - - 0 1 2 3 4 5 6 7 8 9"),
  (0x0C78, "0 1 2 3 1 2 3 - m m n h - a aa i ii u uu r l - e ee ai - o oo au k kh g gh ng c ch j"),
  (0x0C9D, "jh ny tt tth dd ddh nn t th d dh n - p ph b bh m y r rr l ll - v sh ss s h - - _"),
  (0x0CBE, "aa i ii u uu r rr - e ee ai - o oo au _"),
  (0x0CDD, "n lll - rr ll l l - - 0 1 2 3 4 5 6 7 8 9 - h h m"),
  (0x0D00, "m m n h m a aa i ii u uu r l - e ee ai - o oo au k kh g gh ng c ch j jh ny tt tth dd"),
  (0x0D22, "ddh nn t th d dh n n p ph b bh m y r rr l ll lll v sh ss s h t _ _ - aa i ii u uu r"),
  (0x0D44, "r - e ee ai - o oo au _ r p"),
  (0x0D54, "m y l - 160 4 80 20 10 20 64 i rr ll l l - - 0 1 2 3 4 5 6 7 8 9 10 100 1000 1 2 3"),
  (0x0D76, "16 40 16 - n n r l l k - m n h - a aa ae aae i ii u uu r rr l ll e ee ai o oo au"),
  (0x0D9A, "k kh g gh ng nng c ch j jh ny jny nyj tt tth dd ddh nn nndd t th d dh n - nd p ph b"),
  (0x0DB7, "bh m mb y r - l - - v sh ss s h ll f"),
  (0x0DCA, "_"),
  (0x0DCF, "aa ae aae i ii u - uu - r e ee ai o oo au l"),
  (0x0DE6, "0 1 2 3 4 5 6 7 8 9 - - rr ll"),
  (0x0E01, "k kh kh kh kh kh ng cch ch ch ch ch y d t th th th n d t th th th n b p ph f ph f ph"),
  (0x0E21, "m y r r l l w s s s h l - h - a a aa am i ii ue uue u uu"),
  (0x0E3F, "bh- e ae o ai ai ao - _ _ _ _ _ _ m _ - 0 1 2 3 4 5 6 7 8 9"),
  (0x0E81, "k kh - kh - gh ng ch ch s - jh ny ny t th d dh n d h th th dh n b p ph f ph f bh m y"),
  (0x0EA3, "r - l - w s s s h l - _ - a _ aa am i ii y yy u uu _ o l ny - - e ei o ay ai"),
  (0x0EC8, "_ _ _ _ _ m - - 0 1 2 3 4 5 6 7 8 9 - - hn hm k ny"),
  (0x0F00, "aum _ _ _ _ _ _ _ - - _"),
  (0x0F11, "-x- -xx- -x- - _ _ _ _ _ _ _ _ _ _ _ 0 1 2 3 4 5 6 7 8 9 -5 1-5 2-5 3-5 4-5 5-5 6-5"),
  (0x0F31, "7-5 8-5 -5"),
  (0x0F38, "_"),
  (0x0F3E, "_ _ k kh g gh ng c ch j - ny tt tth dd ddh nn t th d dh n p ph b bh m ts tsh dz dzh"),
  (0x0F5D, "w zh z - y r l sh ssh s h a kss r k r"),
  (0x0F71, "aa i ii u uu r rr l ll e ee o oo m h i ii _ _ _ _ _ _ _ _ _ _ - _ _ _ k kh g gh ng c"),
  (0x0F96, "ch j - ny tt tth dd ddh nn t th d dh n p ph b bh m ts tsh dz dzh w zh z - y r l sh"),
  (0x0FB5, "ss s h a kss w y r - x -x- -o- -o- -o- -o- _ _ _ _ _ _ _ _ _ - - _"),
  (0x1000, "k kh g gh ng c ch j jh ny nny tt tth dd ddh nn tt th d dh n p ph b bh m y r l w s h"),
  (0x1020, "ll a a i ii u uu e e o au a aa i ii u uu e ai i o e n - - _ _ y r w h s 0 1 2 3 4 5"),
  (0x1046, "6 7 8 9 - - n- r- l- e- sh ss r rr l ll r rr l ll ng jh b be n m l sh eu - - th pw"),
  (0x1067, "eu u"),
  (0x106E, "n yw ghw i o u e k kh g c z ny d n ph f b th h w a e - y"),
  (0x108D, "_ f - 0 1 2 3 4 5 6 7 8 9 - - a ai - - a b g d e v z t- i k l m n o p zh r s t u p-"),
  (0x10B5, "k- g- q sh ch- c- z- c ch x j h e y w xh oe - y"),
  (0x10CD, "e - - a b g d e v z t- i k l m n o p zh r s t u p- k- g- q sh ch- c- z- c ch x j h e"),
  (0x10F2, "y w xh oe f y e g - - n e - - g gg n d dd r m b bb s ss _ j jj c k t p h ng nn nd nb"),
  (0x1117, "dg rn rr rh rn mb mn bg bn _ bs bsg bst bsb bss bsj bj bc bt bp bn bbn sg sn sd sr"),
  (0x1131, "sm sb sbg sss s sj sc sk st sp sh _ _ _ _ z g d m b s z _ j c t p n j _ _ _ _ ck ch"),
  (0x1154, "_ _ pb pn hh q"),
  (0x115F, "_ _ a ae ya yae eo e yeo ye o wa wae oe yo u weo we wi yu eu yi i a-o a-u ya-o ya-yo"),
  (0x117A, "eo-o eo-u eo-eu yeo-o yeo-u o-eo o-e o-ye o-o o-u yo-ya yo-yae yo-yeo yo-o yo-i u-a"),
  (0x118A, "u-ae u-eo-eu u-ye u-u yu-a yu-eo yu-e yu-yeo yu-ye yu-u yu-i eu-u eu-eu yi-u i-a"),
  (0x1199, "i-ya i-o i-u i-eu i-u u u-eo u-u u-i uu"),
  (0x11A8, "g gg gs n nj nh d l lg lm lb ls lt lp lh m b bs s ss ng j c k t p h gl gsg ng nd ns"),
  (0x11C8, "nz nt dg tl lgs ln ld lth ll lmg lms lbs lbh rnp lss lz lk lq mg ml mb ms mss mz mc"),
  (0x11E1, "mh mn bl bp ph pn sg sd sl sb z g ss _ kh n ns nz pb pn hn hl hm hb q"),
  (0x1200, "ha hu hi haa hee he ho hoa la lu li laa lee le lo lwa hha hhu hhi hhaa hhee hhe hho"),
  (0x1217, "hhwa ma mu mi maa mee me mo mwa sza szu szi szaa szee sze szo szwa ra ru ri raa ree"),
  (0x122D, "re ro rwa sa su si saa see se so swa sha shu shi shaa shee she sho shwa qa qu qi qaa"),
  (0x1244, "qee qe qo qoa qwa - qwi qwaa qwee qwe - - qha qhu qhi qhaa qhee qhe qho - qhwa"),
  (0x125A, "qhwi qhwaa qhwee qhwe - - ba bu bi baa bee be bo bwa va vu vi vaa vee ve vo vwa ta"),
  (0x1271, "tu ti taa tee te to twa ca cu ci caa cee ce co cwa xa xu xi xaa xee xe xo xoa xwa"),
  (0x128A, "xwi xwaa xwee xwe - - na nu ni naa nee ne no nwa nya nyu nyi nyaa nyee nye nyo nywa"),
  (0x12A0, "-a -u -i -aa -ee -e -o -wa ka ku ki kaa kee ke ko koa kwa - kwi kwaa kwee kwe"),
  (0x12B8, "kxa kxu kxi kxaa kxee kxe kxo - kxwa - kxwi kxwaa kxwee kxwe - - wa wu wi waa wee we"),
  (0x12CE, "wo woa -a -u -i -aa -ee -e -o - za zu zi zaa zee ze zo zwa zha zhu zhi zhaa zhee zhe"),
  (0x12E6, "zho zhwa ya yu yi yaa yee ye yo yoa da du di daa dee de do dwa dda ddu ddi ddaa ddee"),
  (0x12FD, "dde ddo ddwa ja ju ji jaa jee je jo jwa ga gu gi gaa gee ge go goa gwa - gwi gwaa"),
  (0x1314, "gwee gwe - - gga ggu ggi ggaa ggee gge ggo ggwaa tha thu thi thaa thee the tho thwa"),
  (0x1328, "cha chu chi chaa chee che cho chwa pha phu phi phaa phee phe pho phwa tsa tsu tsi"),
  (0x133B, "tsaa tsee tse tso tswa tza tzu tzi tzaa tzee tze tzo tzoa fa fu fi faa fee fe fo fwa"),
  (0x1350, "pa pu pi paa pee pe po pwa rya mya fya - - mark mark _"),
  (0x1369, "1 2 3 4 5 6 7 8 9 10- 20- 30- 40- 50- 60- 70- 80- 90- 100- 10-000-"),
  (0x1380, "mwa mwi mwe mwi bwa bwi bwe bwi fwa fwi fwe fwi pwa pwi pwe pwi"),
  (0x13A0, "a e i o u v ga ka ge gi go gu gv ha he hi ho hu hv la le li lo lu lv ma me mi mo mu"),
  (0x13BE, "na hna nah ne ni no nu nv qua que qui quo quu quv sa s se si so su sv da ta de te di"),
  (0x13D8, "ti do du dv dla tla tle tli tlo tlu tlv tsa tse tsi tso tsu tsv wa we wi wo wu wv ya"),
  (0x13F0, "ye yi yo yu yv mv - - ye yi yo yu yv mv"),
  (0x1401, "ai aai i ii u uu oo ee i a aa we we wi wi wii wii wo wo woo woo woo wa wa waa waa"),
  (0x141B, "waa ai w - t k sh s n w n - w c - l en in on an pai paai pi pii pu puu poo hee hi pa"),
  (0x1439, "paa pwe pwe pwi pwi pwii pwii pwo pwo pwoo pwoo pwa pwa pwaa pwaa pwaa p p h tai"),
  (0x144D, "taai ti tii tu tuu too dee di ta taa twe twe twi twi twii twii two two twoo twoo twa"),
  (0x1462, "twa twaa twaa twaa t tte tti tto tta kai kaai ki kii ku kuu koo ka kaa kwe kwe kwi"),
  (0x1477, "kwi kwii kwii kwo kwo kwoo kwoo kwa kwa kwaa kwaa kwaa k kw keh kih koh kah gai caai"),
  (0x148B, "gi gii gu guu coo ga gaa cwe cwe cwi cwi cwii cwii cwo cwo cwoo cwoo cwa cwa cwaa"),
  (0x149F, "cwaa cwaa g th mai maai mi mii mu muu moo ma maa mwe mwe mwi mwi mwii mwii mwo mwo"),
  (0x14B4, "mwoo mwoo mwa mwa mwaa mwaa mwaa m m mh m m nai naai ni nii nu nuu noo na naa nwe"),
  (0x14CA, "nwe nwa nwa nwaa nwaa nwaa n ng nh lai laai li lii lu luu loo la laa lwe lwe lwi lwi"),
  (0x14E0, "lwii lwii lwo lwo lwoo lwoo lwa lwa lwaa lwaa l l l sai saai si sii su suu soo sa"),
  (0x14F5, "saa swe swe swi swi swii swii swo swo swoo swoo swa swa swaa swaa swaa s s sw s sk"),
  (0x150A, "skw sw spwa stwa skwa scwa she shi shii sho shoo sha shaa shwe shwe shwi shwi shwii"),
  (0x151C, "shwii shwo shwo shwoo shwoo shwa shwa shwaa shwaa sh jai yaai ji jii ju juu yoo ja"),
  (0x152E, "jaa ywe ywe ywi ywi ywii ywii ywo ywo ywoo ywoo ywa ywa ywaa ywaa ywaa j y y yi re"),
  (0x1543, "re le raai ri rii ru ruu lo ra raa la rwaa rwaa r r r fai faai fi fii fu fuu fa faa"),
  (0x155B, "fwaa fwaa f the the thi thi thii thii tho thoo tha thaa thwaa thwaa th tthe tthi"),
  (0x156D, "ttho ttha tth tye tyi tyo tya he hi hii ho hoo ha haa h h hk qaai qi qii qu quu qa"),
  (0x1584, "qaa q tlhe tlhi tlho tlha re ri ro ra ngaai ngi ngii ngu nguu nga ngaa ng nng she"),
  (0x1598, "shi sho sha the thi tho tha th lhi lhii lho lhoo lha lhaa lh the thi thii tho thoo"),
  (0x15AC, "tha thaa th b e i o a we wi wo wa ne ni no na ke ki ko ka he hi ho ha ghu gho ghe"),
  (0x15C7, "ghee ghi gha ru ro re ree ri ra wu wo we wee wi wa hwu hwo hwe hwee hwi hwa thu tho"),
  (0x15DE, "the thee thi tha ttu tto tte ttee tti tta pu po pe pee pi pa p gu go ge gee gi ga"),
  (0x15F5, "khu kho khe khee khi kha kku kko kke kkee kki kka kk nu no ne nee ni na mu mo me mee"),
  (0x160C, "mi ma yu yo ye yee yi ya ju ju jo je jee ji ji ja jju jjo jje jjee jji jja lu lo le"),
  (0x1625, "lee li la dlu dlo dle dlee dli dla lhu lho lhe lhee lhi lha tlhu tlho tlhe tlhee"),
  (0x1638, "tlhi tlha tlu tlo tle tlee tli tla zu zo ze zee zi za z z dzu dzo dze dzee dzi dza"),
  (0x164E, "su so se see si sa shu sho she shee shi sha sh tsu tso tse tsee tsi tsa chu cho che"),
  (0x1664, "chee chi cha ttsu ttso ttse ttsee ttsi ttsa x - qai ngai nngi nngii nngo nngoo nnga"),
  (0x1676, "nngaa thwee thwi thwii thwo thwoo thwa thwaa th w - b l f s n h d t c q m g ng z r a"),
  (0x1691, "o u e i ch th ph p x p"),
  (0x16A0, "f v u yr y w th th a o ac ae o o o oe on r k c k g ng g g w h h h h n n n i e j g ae"),
  (0x16C6, "a eo p z s s s c z t t d b b p p e m m m l l ng ng d o ear ior qu qu qu s yr yr yr q"),
  (0x16EA, "x"),
  (0x16EE, "17 18 19 k sh o os is eh ac aesc"),
  (0x1700, "a i u k g ng t d n p b m y r l w s h i u _"),
  (0x171F, "r a i u k g ng t d n p b m y r l w s h i u"),
  (0x1740, "a i u k g ng t d n p b m y r l w s h i u"),
  (0x1760, "a i u k g ng t d n p b m y - l w s - i u"),
  (0x1780, "k kh g gh ng c ch j jh ny t tth d ddh nn t th d dh n p ph b bh m y r l v sh ss s h l"),
  (0x17A2, "q a aa i ii u uk uu uuv ry ryy ly lyy e ai oo oo au a aa aa i ii y yy u uu ua oe ya"),
  (0x17C0, "ie e ae ai oo au m h a- _ _ _ r _ - _ _ _ _ _"),
  (0x17DB, "kr - _ - - 0 1 2 3 4 5 6 7 8 9"),
  (0x17F0, "0 1 2 3 4 5 6 7 8 9"),
  (0x1806, "_"),
  (0x180A, "_ _ _ _ _ _ 0 1 2 3 4 5 6 7 8 9"),
  (0x1820, "a e i o u o u ee n ng b p q g m l s sh t d ch j y r w f k kha ts z h zr lh zh ch - e"),
  (0x1845, "i o u o u ng b p q g m t d ch j ts y w k g h jy ny dz e i iy u u ng k g h p sh t d j"),
  (0x186B, "f g h ts z r ch zh i k r f zh ch"),
  (0x1881, "h x w m -3- -333- a i k ng c tt tth dd nn t d p ph ss zh z a t zh gh ng c jh tta ddh"),
  (0x18A0, "t dh ss cy zh z u y bh - lha"),
  (0x18B0, "oy ay aay way poy pay pwoy tay kay kway may noy nay lay soy say shoy shay shwoy yoy"),
  (0x18C4, "yay ray nwi nwi nwii nwii nwo nwo nwoo nwoo rwee rwi rwii rwo rwoo rwa p t k c m n s"),
  (0x18DB, "sh w w ring dot rwe loo laa thwe thwa tthwe tthoo tthaa tlhwe tlhoo shwe shoo hoo"),
  (0x18ED, "gwu gee gaa gwa juu jwa l r s"),
  (0x1901, "k kh g gh ng c ch j jh ny t th d dh n p ph b bh m y r l w sh ss s h gy tr - a i u e"),
  (0x1924, "ai o au e o y r w"),
  (0x1930, "k ng ny t n p m r l _ _ _"),
  (0x1946, "0 1 2 3 4 5 6 7 8 9 k x ng ts s y t th l p ph m f v h q kh tsh n a i ee eh u oo o ue"),
  (0x196B, "e aue ai"),
  (0x1980, "q q k kh ng k kh ng ts s y ts s y t th n t th n p ph m p ph m f v l f v l h d b h d"),
  (0x19A5, "b kv xv kv xv s s"),
  (0x19B0, "_ a i i u u e ae o o ua oe ay ay oy uy oi iy b ng n m k d b _"),
  (0x19D0, "0 1 2 3 4 5 6 7 8 9"),
  (0x1A00, "k g ng ngk p b m mp t d n nr c j ny nyc y r l w s a h i u e o e _ _ - - k kh kx k kx"),
  (0x1A25, "kh ng c ch c s ch ny - - d - - t th t th n b p ph f p f ph m y y r rue l lue w sh s"),
  (0x1A48, "s h l a h i i u u e o lae s r l lai _ ng p p m b s - _ a sat a a i i u u u u o - oy"),
  (0x1A6E, "e e o ai ai - _ _ _ _ _ _ _ _ _ - - _ 0 1 2 3 4 5 6 7 8 9"),
  (0x1A90, "0 1 2 3 4 5 6 7 8 9"),
  (0x1AB0, "_ _ _ _ _ _ _ _ _ _ _ _ _ _ _ _ _ _ _ _ _ _ _ _ _ _ _ _ _ _ _ _ _ _ _ _ _ _ _ _ _ _"),
  (0x1ADA, "_ _ _ _ _ _ _ _ _ _ _ _ _ _ _ _ _ _ _ _ _ _ _ _ _ _ _ _ _ _ _ _ _ _ _ _ _ - m m ng r"),
  (0x1B04, "h a a i i u u r r l l e ai o au k kh g gh ng c ch j jh ny t th d dh n t th d dh n p"),
  (0x1B28, "ph b bh m y r l w s s s h _ a i i u u r r l l e ai o au e e - k kh ts f v z s"),
  (0x1B4C, "archaic"),
  (0x1B50, "0 1 2 3 4 5 6 7 8 9"),
  (0x1B6B, "_ _ _ _ _ _ _ _ _"),
  (0x1B80, "ng r h a i u e o e eu k q g ng c j z ny t d n p f v b m y r l w s x h y r l i u e o"),
  (0x1BA8, "e eu - _ pasangan pasangan kh sy 0 1 2 3 4 5 6 7 8 9 - reu leu bh final final a a h"),
  (0x1BC3, "h h b b p p n n w w w g g j d r r m m t t s s s y y ng l l ny c nd mb i u _ e e e i"),
  (0x1BEB, "i o o u sa ng h"),
  (0x1C00, "k kl kh g gl ng c ch j ny t th d n p pl ph f fl b bl m ml ts tsh dz y r l h hl v s"),
  (0x1C21, "sh w a y r a i o o u u e k m l n p r t - kang _ _"),
  (0x1C40, "0 1 2 3 4 5 6 7 8 9"),
  (0x1C4D, "t th d 0 1 2 3 4 5 6 7 8 9 a t g ng l a k j m w i s h ny r u c d n y e p d n r o t b"),
  (0x1C76, "v h"),
  (0x1C80, "v d o s t t - y u"),
  (0x1C90, "a b g d e v z t i k- l m n o p- zh r s t- u p k gh q- sh ch ts dz ts- ch- kh j h ey"),
  (0x1CB2, "y w q o f y e gh k- - - ey - _"),
  (0x1CD0, "_ _ _ - _ _ _ _ _ _ _ _ _ _ _ _ _ - h h _ h _ h h m m m m _"),
  (0x1CF1, "m - - _"),
  (0x1CF8, "_ _"),
  (0x1D00, "a ae ae b c d d e e i j k l m n o o o o o oe ou o o p r r t u u u m v w z zh - - g l"),
  (0x1D28, "p r ps l a ae b b d e 3 g h i j k l m n n o ou p r t u w a a a ae b d e - e e g i k"),
  (0x1D50, "m ng o o o o p t u u w v - v g d f ch i r u v v g r f ch ue b d f m n p r r s t z g"),
  (0x1D78, "n g th i i p u u b d f g k l m n p r s sh v x z a a d e e e e i o sh u zh a c c d e"),
  (0x1DA0, "f j g y i i i i j l l l m w n n n o f s s t u u u v - z z z z th _ _ _ _ _ _ _ _ _ _"),
  (0x1DCA, "r _ _ _ _ _ _ _ us - ae ao av - d d g g k l l m n n r r s s z a b b e f l o p sh u w"),
  (0x1DF2, "a o u _ _ _ _ _ _ _ _ _ _ _ a a b b b b b b c c d d d d d d d d d d e e e e e e e e"),
  (0x1E1C, "e e f f g g h h h h h h h h h h i i i i k k k k k k l l l l l l l l m m m m m m n n"),
  (0x1E46, "n n n n n n o o o o o o o o p p p p r r r r r r r r s s s s s s s s s s t t t t t t"),
  (0x1E70, "t t u u u u u u u u u u v v v v w w w w w w w w w w x x x x y y z z z z z z h t w y"),
  (0x1E9A, "a- s s s ss d a a a a a a a a a a a a a a a a a a a a a a a a e e e e e e e e e e e"),
  (0x1EC3, "e e e e e i i i i o o o o o o o o o o o o o o o o o o o o o o o o u u u u u u u u u"),
  (0x1EED, "u u u u u y y y y y y y y ll ll v v y y a a a a a a a a a a a a a a a a e e e e e e"),
  (0x1F18, "e e e e e e - - e e e e e e e e e e e e e e e e i i i i i i i i i i i i i i i i o o"),
  (0x1F42, "o o o o - - o o o o o o - - u u u u u u u u - u - u - u - u o o o o o o o o o o o o"),
  (0x1F6C, "o o o o a a e e e e i i o o u u o o - - a a a a a a a a a a a a a a a a e e e e e e"),
  (0x1F96, "e e e e e e e e e e o o o o o o o o o o o o o o o o a a a a a - a a a a a a a - i"),
  (0x1FC2, "e e e - e e e e e e e"),
  (0x1FD0, "i i i i - - i i i i i i"),
  (0x1FE0, "u u u u r r u u u u u u r"),
  (0x1FF2, "o o o - o o o o o o o")]

end ManifestMigration.Name
