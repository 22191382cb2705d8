/-! How the syllabaries and the wide and joined forms of letters are written in ASCII. -/

namespace ManifestMigration.Name

/-- The rows of syllabaries and of other forms of letters, as those of letters. -/
def syllableRows : List (Nat × String) := [
  (0x4DC0, "qian kun zhun meng xu song shi bi xiaoxu lu tai pi tongren dayou qian yu sui gu lin"),
  (0x4DD3, "guan shihe bi bo fu wuwang daxu yi daguo kan li xian heng dun dazhuang jin mingyi"),
  (0x4DE4, "jiaren kui jian jie sun yi guai gou cui sheng kun jing ge ding zhen gen jian guimei"),
  (0x4DF6, "feng lu xun dui huan jie zhongfu xiaoguo jiji weiji"),
  (0xA000, "it ix i ip iet iex ie iep at ax a ap uox uo uop ot ox o op ex e wu bit bix bi bip"),
  (0xA01A, "biet biex bie biep bat bax ba bap buox buo buop bot box bo bop bex be bep but bux bu"),
  (0xA02F, "bup burx bur byt byx by byp byrx byr pit pix pi pip piex pie piep pat pax pa pap"),
  (0xA043, "puox puo puop pot pox po pop put pux pu pup purx pur pyt pyx py pyp pyrx pyr bbit"),
  (0xA057, "bbix bbi bbip bbiet bbiex bbie bbiep bbat bbax bba bbap bbuox bbuo bbuop bbot bbox"),
  (0xA067, "bbo bbop bbex bbe bbep bbut bbux bbu bbup bburx bbur bbyt bbyx bby bbyp nbit nbix"),
  (0xA078, "nbi nbip nbiex nbie nbiep nbat nbax nba nbap nbot nbox nbo nbop nbut nbux nbu nbup"),
  (0xA089, "nburx nbur nbyt nbyx nby nbyp nbyrx nbyr hmit hmix hmi hmip hmiex hmie hmiep hmat"),
  (0xA099, "hmax hma hmap hmuox hmuo hmuop hmot hmox hmo hmop hmut hmux hmu hmup hmurx hmur hmyx"),
  (0xA0AA, "hmy hmyp hmyrx hmyr mit mix mi mip miex mie miep mat max ma map muot muox muo muop"),
  (0xA0BD, "mot mox mo mop mex me mut mux mu mup murx mur myt myx my myp fit fix fi fip fat fax"),
  (0xA0D3, "fa fap fox fo fop fut fux fu fup furx fur fyt fyx fy fyp vit vix vi vip viet viex"),
  (0xA0E8, "vie viep vat vax va vap vot vox vo vop vex vep vut vux vu vup vurx vur vyt vyx vy"),
  (0xA0FD, "vyp vyrx vyr dit dix di dip diex die diep dat dax da dap duox duo dot dox do dop dex"),
  (0xA112, "de dep dut dux du dup durx dur tit tix ti tip tiex tie tiep tat tax ta tap tuot tuox"),
  (0xA127, "tuo tuop tot tox to top tex te tep tut tux tu tup turx tur ddit ddix ddi ddip ddiex"),
  (0xA13B, "ddie ddiep ddat ddax dda ddap dduox dduo dduop ddot ddox ddo ddop ddex dde ddep ddut"),
  (0xA14C, "ddux ddu ddup ddurx ddur ndit ndix ndi ndip ndiex ndie ndat ndax nda ndap ndot ndox"),
  (0xA15D, "ndo ndop ndex nde ndep ndut ndux ndu ndup ndurx ndur hnit hnix hni hnip hniet hniex"),
  (0xA16E, "hnie hniep hnat hnax hna hnap hnuox hnuo hnot hnox hnop hnex hne hnep hnut nit nix"),
  (0xA17F, "ni nip niex nie niep nax na nap nuox nuo nuop not nox no nop nex ne nep nut nux nu"),
  (0xA194, "nup nurx nur hlit hlix hli hlip hliex hlie hliep hlat hlax hla hlap hluox hluo hluop"),
  (0xA1A5, "hlox hlo hlop hlex hle hlep hlut hlux hlu hlup hlurx hlur hlyt hlyx hly hlyp hlyrx"),
  (0xA1B6, "hlyr lit lix li lip liet liex lie liep lat lax la lap luot luox luo luop lot lox lo"),
  (0xA1CA, "lop lex le lep lut lux lu lup lurx lur lyt lyx ly lyp lyrx lyr git gix gi gip giet"),
  (0xA1DF, "giex gie giep gat gax ga gap guot guox guo guop got gox go gop get gex ge gep gut"),
  (0xA1F3, "gux gu gup gurx gur kit kix ki kip kiex kie kiep kat kax ka kap kuox kuo kuop kot"),
  (0xA207, "kox ko kop ket kex ke kep kut kux ku kup kurx kur ggit ggix ggi ggiex ggie ggiep"),
  (0xA21A, "ggat ggax gga ggap gguot gguox gguo gguop ggot ggox ggo ggop gget ggex gge ggep ggut"),
  (0xA22B, "ggux ggu ggup ggurx ggur mgiex mgie mgat mgax mga mgap mguox mguo mguop mgot mgox"),
  (0xA23B, "mgo mgop mgex mge mgep mgut mgux mgu mgup mgurx mgur hxit hxix hxi hxip hxiet hxiex"),
  (0xA24C, "hxie hxiep hxat hxax hxa hxap hxuot hxuox hxuo hxuop hxot hxox hxo hxop hxex hxe"),
  (0xA25C, "hxep ngiex ngie ngiep ngat ngax nga ngap nguot nguox nguo ngot ngox ngo ngop ngex"),
  (0xA26C, "nge ngep hit hiex hie hat hax ha hap huot huox huo huop hot hox ho hop hex he hep"),
  (0xA280, "wat wax wa wap wuox wuo wuop wox wo wop wex we wep zit zix zi zip ziex zie ziep zat"),
  (0xA295, "zax za zap zuox zuo zuop zot zox zo zop zex ze zep zut zux zu zup zurx zur zyt zyx"),
  (0xA2AA, "zy zyp zyrx zyr cit cix ci cip ciet ciex cie ciep cat cax ca cap cuox cuo cuop cot"),
  (0xA2BE, "cox co cop cex ce cep cut cux cu cup curx cur cyt cyx cy cyp cyrx cyr zzit zzix zzi"),
  (0xA2D3, "zzip zziet zziex zzie zziep zzat zzax zza zzap zzox zzo zzop zzex zze zzep zzux zzu"),
  (0xA2E4, "zzup zzurx zzur zzyt zzyx zzy zzyp zzyrx zzyr nzit nzix nzi nzip nziex nzie nziep"),
  (0xA2F4, "nzat nzax nza nzap nzuox nzuo nzox nzop nzex nze nzux nzu nzup nzurx nzur nzyt nzyx"),
  (0xA305, "nzy nzyp nzyrx nzyr sit six si sip siex sie siep sat sax sa sap suox suo suop sot"),
  (0xA318, "sox so sop sex se sep sut sux su sup surx sur syt syx sy syp syrx syr ssit ssix ssi"),
  (0xA32D, "ssip ssiex ssie ssiep ssat ssax ssa ssap ssot ssox sso ssop ssex sse ssep ssut ssux"),
  (0xA33E, "ssu ssup ssyt ssyx ssy ssyp ssyrx ssyr zhat zhax zha zhap zhuox zhuo zhuop zhot zhox"),
  (0xA34F, "zho zhop zhet zhex zhe zhep zhut zhux zhu zhup zhurx zhur zhyt zhyx zhy zhyp zhyrx"),
  (0xA360, "zhyr chat chax cha chap chuot chuox chuo chuop chot chox cho chop chet chex che chep"),
  (0xA371, "chux chu chup churx chur chyt chyx chy chyp chyrx chyr rrax rra rruox rruo rrot rrox"),
  (0xA382, "rro rrop rret rrex rre rrep rrut rrux rru rrup rrurx rrur rryt rryx rry rryp rryrx"),
  (0xA393, "rryr nrat nrax nra nrap nrox nro nrop nret nrex nre nrep nrut nrux nru nrup nrurx"),
  (0xA3A4, "nrur nryt nryx nry nryp nryrx nryr shat shax sha shap shuox shuo shuop shot shox sho"),
  (0xA3B5, "shop shet shex she shep shut shux shu shup shurx shur shyt shyx shy shyp shyrx shyr"),
  (0xA3C6, "rat rax ra rap ruox ruo ruop rot rox ro rop rex re rep rut rux ru rup rurx rur ryt"),
  (0xA3DB, "ryx ry ryp ryrx ryr jit jix ji jip jiet jiex jie jiep juot juox juo juop jot jox jo"),
  (0xA3EF, "jop jut jux ju jup jurx jur jyt jyx jy jyp jyrx jyr qit qix qi qip qiet qiex qie"),
  (0xA403, "qiep quot quox quo quop qot qox qo qop qut qux qu qup qurx qur qyt qyx qy qyp qyrx"),
  (0xA417, "qyr jjit jjix jji jjip jjiet jjiex jjie jjiep jjuox jjuo jjuop jjot jjox jjo jjop"),
  (0xA427, "jjut jjux jju jjup jjurx jjur jjyt jjyx jjy jjyp njit njix nji njip njiet njiex njie"),
  (0xA438, "njiep njuox njuo njot njox njo njop njux nju njup njurx njur njyt njyx njy njyp"),
  (0xA448, "njyrx njyr nyit nyix nyi nyip nyiet nyiex nyie nyiep nyuox nyuo nyuop nyot nyox nyo"),
  (0xA458, "nyop nyut nyux nyu nyup xit xix xi xip xiet xiex xie xiep xuox xuo xot xox xo xop"),
  (0xA46B, "xyt xyx xy xyp xyrx xyr yit yix yi yip yiet yiex yie yiep yuot yuox yuo yuop yot yox"),
  (0xA47F, "yo yop yut yux yu yup yurx yur yyt yyx yy yyp yyrx yyr"),
  (0xA490, "qot li kit nyip cyp ssi ggop gep mi hxit lyr bbut mop yo put hxuo tat ga zup cyt"),
  (0xA4A4, "ddur bur gguo nyop tu op jjut zot pyt hmo yit vur shy vep za jo nzup jjy got jjie wo"),
  (0xA4B9, "du shur lie cy cuop cip hxop shat zur shop che zziet nbie ke"),
  (0xA4D0, "b p p d d t g k k j ch ch dz z c m n l s r z ng h x h- f w sh y g a a e eu i o u ue"),
  (0xA4F6, "u oe ti po cya bo na jeu - - e en he we wen pe bhe be mbe kpe mgbe gbe fe ve te the"),
  (0xA510, "dhe dhe le re de nde se she ze zhe ce je nje ye ke nge ge me ne nye i in hi hin wi"),
  (0xA529, "win pi bhi bi mbi kpi mgbi gbi fi vi ti thi dhi dhi li ri di ndi si shi zi zhi ci ji"),
  (0xA541, "nji yi ki ngi gi mi ni nyi a an ngan ha han wa wan pa bha ba mba kpa kpan mgba gba"),
  (0xA558, "fa va ta tha dha dha la ra da nda sa sha za zha ca ja nja ya ka kan nga ga ma na nya"),
  (0xA571, "o on ho wo won po bho bo mbo kpo mgbo gbo fo vo to tho dho dho lo ro do ndo so sho"),
  (0xA589, "zo zho co jo njo yo ko ngo go mo no nyo u un hu hun wu wun pu bhu bu mbu kpu mgbu"),
  (0xA5A1, "gbu fu vu tu thu dhu dhu lu ru du ndu su shu zu zhu cu ju nju yu ku ngu gu mu nu nyu"),
  (0xA5BA, "o on ngon ho hon wo won po bho bo mbo kpo mgbo gbo gbon fo vo to tho dho dho lo ro"),
  (0xA5D1, "do ndo so sho zo zho co jo njo yo ko ngo go mo no nyo e en ngen he hen we wen pe bhe"),
  (0xA5EA, "be mbe kpe kpen mgbe gbe gben fe ve te the dhe dhe le re de nde se she ze zhe ce je"),
  (0xA601, "nje ye ke nge ngen ge gen me ne nye ng lengthener"),
  (0xA610, "fa ka so feng keng ting ni bang fa ta dang dong kung tong do-o jong 0 1 2 3 4 5 6 7"),
  (0xA628, "8 9 ma do"),
  (0xA640, "z z dz dz dz dz i i dj dj u u o o - - y y ya ya yu yu ya ya e e o o ye ye in in ts"),
  (0xA661, "ts d d l l m m o o o o o o o _ _ _ _ - e i yi u - y - o _ _ - - dw dw dzw dzw zhw"),
  (0xA685, "zhw ch ch dz dz t t tw tw tsw tsw ts ts ch ch hw hw shw shw o o o o h s f ye a ka u"),
  (0xA6A3, "ku e re tae o nyi i la pa ri rie le me ta nda njaem m su mu shi si sheux seux kye"),
  (0xA6BB, "ket nuae nu njuae yoq shu yuq ya nsha keux peux nje nte pue wue pe fe ru lu mi ni"),
  (0xA6D0, "reux rae ken ngkwaen nga nga sho puae fu fom wa na li pi loq ko mben ren men ma ti"),
  (0xA6E5, "ki mo mba tet kpa ten ntu samba famae kovu koghom _ _"),
  (0xA726, "heng heng tz tz 3 3 4 4 4 4 f s aa aa ao ao au au av av av av ay ay c c k k k k k k"),
  (0xA746, "l l l l o o o o oo oo p p p p p p q q q q r r rum rum v v vy vy z z th th th th v v"),
  (0xA76A, "et et is is con con us d l m n r r t um d d f f g g g l l r r s s t t"),
  (0xA78D, "h l - n n c c c h b b f f ae ae oe oe ue ue g g k k n n r r s s h e g l i q k t j ch"),
  (0xA7B4, "b b o o u u a a i i u u o o w w c s z d d s s"),
  (0xA7D0, "g g - th - w s s s s"),
  (0xA7F2, "c f q h h i h oe m f p m i m a i _ u e o _ k kh g gh m c ch j jh t th d dh t th d dh"),
  (0xA818, "n p ph b bh m r l r s h a i u e o"),
  (0xA82C, "_"),
  (0xA840, "k kh g ng c ch j ny t th d n p ph b m ts tsh dz w zh z a y r l sh s h a i u e o q x"),
  (0xA864, "f g e w y t th d n y sh h f r r candrabindu"),
  (0xA880, "m h a a i i u u r r l l e e ai o o au k kh g gh ng c ch j jh ny t th d dh n t th d"),
  (0xA8A4, "dh n p ph b bh m y r l v sh s s h l - a i i u u r r l l e e ai o o au _ m"),
  (0xA8D0, "0 1 2 3 4 5 6 7 8 9"),
  (0xA8E0, "_ _ _ _ _ _ _ _ _ _ a u ka na pa ra vi _ m _ _ m m m"),
  (0xA8FE, "ay ay 0 1 2 3 4 5 6 7 8 9 k kh g ng s sh z ny t ht n p ph m d b r y l w th h v c a o"),
  (0xA924, "i o u e u e o _ _ _ - - k g ng t d n p b m c j ny s r l y w h mb ng nd nyj a i u e"),
  (0xA94A, "ai o au eu ea ng n r h"),
  (0xA980, "m ng r h a i i i u r l l e ai o k k kh g gh ng c ch j nyh jh ny t th d dh nh t th d"),
  (0xA9A3, "dh n p ph b bh m y r r l w sh sh s h cecak a o i i u u e ai e r y r"),
  (0xA9D0, "0 1 2 3 4 5 6 7 8 9"),
  (0xA9E0, "gh ch jh n bh _ - ny f g gh j jh d dh n 0 1 2 3 4 5 6 7 8 9 l d dh b bh - a i u e ai"),
  (0xAA05, "o k kh g gh ngue ng ch ch j jh nhue nh nhj t th d dh nue n d p p ph b bh mue m b y r"),
  (0xAA24, "l v s s h a i i ei u o o ai au u y r l w"),
  (0xAA40, "k g ng ng ch t n p y r l s m h - - 0 1 2 3 4 5 6 7 8 9"),
  (0xAA60, "g c ch j jh ny t th d dh dh n s h h f - x z r"),
  (0xAA7A, "r - _ - ch sh k k kh kh kh kh g g ng ng c c ch ch s s ny ny d d t t th th n n b b p"),
  (0xAA9D, "p ph ph f f m m y y r r l l v v h h o o _ a i u u e o _ ia uea ua aue ay an am _ - _"),
  (0xAAE0, "e o ch ny t th d dh n sh s i u ai au au"),
  (0xAAF3, "mark - h _"),
  (0xAB01, "thu thi tha the th tho - - dhu dhi dha dhe dh dho - - dzu dzi dza dze dz dzo"),
  (0xAB20, "che chu chi cha che ch cho - be bu bi ba be b bo - a - e e e f g l l l m n ng o o o"),
  (0xAB40, "o oe oe - - r r - r r r r r sh u u ui ui u ch ch ch x x x x y - heng l l u yat e oe"),
  (0xAB63, "uo"),
  (0xAB68, "r w"),
  (0xAB70, "a e i o u v ga ka ge gi go gu gv ha he hi ho hu hv la le li lo lu lv ma me mi mo mu"),
  (0xAB8E, "na hna nah ne ni no nu nv qua que qui quo quu quv sa s se si so su sv da ta de te di"),
  (0xABA8, "ti do du dv dla tla tle tli tlo tlu tlv tsa tse tsi tso tsu tsv wa we wi wo wu wv ya"),
  (0xABC0, "k s l m p n ch t kh ng th w y h u i ph a g jh r b j d gh dh bh k l m p n t ng i o i"),
  (0xABE5, "a e ou u ai ng - - _ - - 0 1 2 3 4 5 6 7 8 9"),
  (0xF900, "kay- kayng- ke- ko- kol- koc- kwi- kwi- kyun- kul- kum- na- na- na- la- na- na- na-"),
  (0xF912, "na- na- nak- nak- nak- nak- nak- nak- nak- nan- nan- nan- nan- nan- nan- nam- nam-"),
  (0xF923, "nam- nam- nap- nap- nap- nang- nang- nang- nang- nang- nay- nayng- no- no- no- no-"),
  (0xF933, "no- no- no- no- no- no- no- no- nok- nok- nok- nok- nok- nok- non- nong- nong- nong-"),
  (0xF945, "nong- noy- noy- noy- noy- nwu- nwu- nwu- nwu- nwu- nwu- nwu- nwu- nuk- nuk- num-"),
  (0xF955, "nung- nung- nung- nung- nung- twu- la- lak- lak- lan- lyeng- lo- lyul- li- pey- pen-"),
  (0xF965, "pyen- pwu- pwul- pi- sak- sak- sam- sayk- sayng- sep- sey- sway- sin- sim- sip- ya-"),
  (0xF975, "yak- yak- yang- yang- yang- yang- yang- yang- yang- yang- ye- ye- ye- ye- ye- ye-"),
  (0xF985, "ye- ye- ye- ye- ye- yek- yek- yek- yek- yen- yen- yen- yen- yen- yen- yen- yen- yen-"),
  (0xF997, "yen- yen- yen- yen- yen- yel- yel- yel- yel- yel- yel- yem- yem- yem- yem- yem- yep-"),
  (0xF9A8, "yeng- yeng- yeng- yeng- yeng- yeng- yeng- yeng- yeng- yeng- yeng- yeng- yeng- yey-"),
  (0xF9B6, "yey- yey- yey- o- yo- yo- yo- yo- yo- yo- yo- yo- yo- yo- yong- wun- wen- yu- yu-"),
  (0xF9C9, "yu- yu- yu- yu- yu- yu- yu- yu- yuk- yuk- yuk- yun- yun- yun- yun- yul- yul- yul-"),
  (0xF9DB, "yul- yung- i- i- i- i- i- i- i- i- i- i- i- i- i- i- ik- ik- in- in- in- in- in- in-"),
  (0xF9F3, "in- im- im- im- ip- ip- ip- cang- cek- ci- sip- ta- cek- chey- thak- thak- thang-"),
  (0xFA04, "thayk- thong- pho- phok- hang- hang- hyen- hwak- wu- huo- - - zhong- - qing- - - xi-"),
  (0xFA16, "zhu- yi- li- shen- xiang- fu- jing- jing- yu- - hagi- - zhu- - - yi- du-"),
  (0xFA2A, "fan- si- guan- he- lang li wu seng mian mian qin bei he tan qi ping mo ceng che hui"),
  (0xFA3E, "kai zeng cheng min ji shu mei hai zhu han zhu zhao zhuo bei she zhi qi you zu zhu"),
  (0xFA52, "huo zhen gu tu jie lian jin fan shu zhe chou cao cao zhu he shi ye jin bin zeng chuo"),
  (0xFA67, "yi nan xiang pin hui - guan - - bing kuang quan xing chong ji yong shao he tao hui"),
  (0xFA7B, "wa zhong fen yan ben bi ci ao yi cai yao wang shen yu zeng ao cheng dai yu sou bing"),
  (0xFA90, "ao qing lang wang zhang dai sha liu yin zi han jing zhu qiao jue fan zhu zhen ci hua"),
  (0xFAA4, "guan wen yi sheng zhi juan zhuo tian tiao jie lei tao lian ping zhe huang hua yun"),
  (0xFAB6, "qiang fu shi diao zhu qing ye nuo yu jin bian zeng shu chi sou xing zhu nan jing bai"),
  (0xFACA, "xiang e pin zhen gui"),
  (0xFAD8, "e pang"),
  (0xFB00, "ff fi fl ffi ffl st st"),
  (0xFB13, "mn me mi vn mkh"),
  (0xFB1D, "yi _ ay - _ d h k l m m t - sh s sh s a a _ b g d h v z - t y k k l - l - n n - p p"),
  (0xFB46, "ts ts r sh t o b k p l _ _ _ _ _ _ _ _ _ _ _ _ _ _ _ _ _ _ _ _ _ _ _ _ _ _ _ _ _ _ _"),
  (0xFB6F, "_ _ _ _ _ _ _ _ _ _ _ _ _ _ _ _ _ _ _ _ _ _ _ _ _ _ _ _ _ _ _ _ _ _ _ _ _ _ _ _ _ _"),
  (0xFB99, "_ _ _ _ _ _ _ _ _ _ _ _ _ _ _ _ _ _ _ _ _ _ _ _ _"),
  (0xFBD3, "_ _ _ _ _ _ _ _ _ _ _ _ _ _ _ _ _ _ _ _ _ _ _ _ _ _ _ _ _ _ _ _ _ _ _ _ _ _ _ _ _ _"),
  (0xFBFD, "_ _ _ _ _ _ _ _ _ _ _ _ _ _ _ _ _ _ _ _ _ _ _ _ _ _ _ _ _ _ _ _ _ _ _ _ _ _ _ _ _ _"),
  (0xFC27, "_ _ _ _ _ _ _ _ _ _ _ _ _ _ _ _ _ _ _ _ _ _ _ _ _ _ _ _ _ _ _ _ _ _ _ _ _ _ _ _ _ _"),
  (0xFC51, "_ _ _ _ _ _ _ _ _ _ _ _ _ _ _ _ _ _ _ _ _ _ _ _ _ _ _ _ _ _ _ _ _ _ _ _ _ _ _ _ _ _"),
  (0xFC7B, "_ _ _ _ _ _ _ _ _ _ _ _ _ _ _ _ _ _ _ _ _ _ _ _ _ _ _ _ _ _ _ _ _ _ _ _ _ _ _ _ _ _"),
  (0xFCA5, "_ _ _ _ _ _ _ _ _ _ _ _ _ _ _ _ _ _ _ _ _ _ _ _ _ _ _ _ _ _ _ _ _ _ _ _ _ _ _ _ _ _"),
  (0xFCCF, "_ _ _ _ _ _ _ _ _ _ _ _ _ _ _ _ _ _ _ _ _ _ _ _ _ _ _ _ _ _ _ _ _ _ _ _ _ _ _ _ _ _"),
  (0xFCF9, "_ _ _ _ _ _ _ _ _ _ _ _ _ _ _ _ _ _ _ _ _ _ _ _ _ _ _ _ _ _ _ _ _ _ _ _ _ _ _ _ _ _"),
  (0xFD23, "_ _ _ _ _ _ _ _ _ _ _ _ _ _ _ _ _ _ _ _ _ _ _ _ _ _ _ _ _ - anh"),
  (0xFD50, "_ _ _ _ _ _ _ _ _ _ _ _ _ _ _ _ _ _ _ _ _ _ _ _ _ _ _ _ _ _ _ _ _ _ _ _ _ _ _ _ _ _"),
  (0xFD7A, "_ _ _ _ _ _ _ _ _ _ _ _ _ _ _ _ _ _ _ _ _ _ - - _ _ _ _ _ _ _ _ _ _ _ _ _ _ _ _ _ _"),
  (0xFDA4, "_ _ _ _ _ _ _ _ _ _ _ _ _ _ _ _ _ _ _ _ _ _ _ _ _ _ _ _ _ _ _ _ _ _ _ _"),
  (0xFDF0, "_ _ _ _ _ _ _ _ _ _ _ _ _ - - jal _ _ _ _ _ _ _ _ _ _ _ _ _ _ _ _"),
  (0xFE20, "_ _ _ _ _ _ _ _ _ _ _ _ _ _ _ _"),
  (0xFE70, "_ _ _ _ _ - _ _ _ _ _ _ _ _ _ _ _ _ _ _ _ _ _ _ _ _ _ _ _ _ _ _ _ _ _ _ _ _ _ _ _ _"),
  (0xFE9A, "_ _ _ _ _ _ _ _ _ _ _ _ _ _ _ _ _ _ _ _ _ _ _ _ _ _ _ _ _ _ _ _ _ _ _ _ _ _ _ _ _ _"),
  (0xFEC4, "_ _ _ _ _ _ _ _ _ _ _ _ _ _ _ _ _ _ _ _ _ _ _ _ _ _ _ _ _ _ _ _ _ _ _ _ _ _ _ _ _ _"),
  (0xFEEE, "_ _ _ _ _ _ _ _ _ _ _ _ _ _ _ - - _"),
  (0xFF66, "wo a i u e o ya yu yo tu - a i u e o ka ki ku ke ko sa si su se so ta ti tu te to na"),
  (0xFF86, "ni nu ne no ha hi hu he ho ma mi mu me mo ya yu yo ra ri ru re ro wa n - - _ g gg gs"),
  (0xFFA4, "n nj nh d dd r lg lm lb ls lt lp rh m b bb bs s ss _ j jj c k t p h"),
  (0xFFC2, "a ae ya yae eo e - - yeo ye o wa wae oe - - yo u weo we wi yu - - eu yi i"),
  (0xFFE0, "-c ps"),
  (0xFFE5, "y- w"),
  (0xFFEE, "o"),
  (0xFFFC, "_ _")]

end ManifestMigration.Name
