/-! How ancient and mathematical letters and pictures are written in ASCII. -/

namespace ManifestMigration.Name

/-- The rows of ancient and mathematical letters and of pictures, as those of letters. -/
def pictureRows : List (Nat × String) := [
  (0x10330, "a b g d e q z h th i k l m n j u p 90 r s t w f x hw o 900"),
  (0x10400, "i e a a o u i e a a o u ay ow w y h p b t d ch j k g f v th dh s z sh zh r l m n ng"),
  (0x10426, "oy yu i e a a o u i e a a o u ay ow w y h p b t d ch j k g f v th dh s z sh zh r l"),
  (0x1044B, "m n ng oy yu"),
  (0x10783, "ae b b - dz - dz dz d d d e e fn u g g g h h h j ls lz l - l lz - y - o oe o q r"),
  (0x107A8, "r r r tc ts - ts t v - y"),
  (0x1D400, "a b c d e f g h i j k l m n o p q r s t u v w x y z a b c d e f g h i j k l m n o p"),
  (0x1D42A, "q r s t u v w x y z a b c d e f g h i j k l m n o p q r s t u v w x y z a b c d e f"),
  (0x1D454, "g - i j k l m n o p q r s t u v w x y z a b c d e f g h i j k l m n o p q r s t u v"),
  (0x1D47E, "w x y z a b c d e f g h i j k l m n o p q r s t u v w x y z a - c d - - g - - j k"),
  (0x1D4A9, "n o p q - s t u v w x y z a b c d - f - h i j k l m n - p q r s t u v w x y z a b c"),
  (0x1D4D3, "d e f g h i j k l m n o p q r s t u v w x y z a b c d e f g h i j k l m n o p q r s"),
  (0x1D4FD, "t u v w x y z a b - d e f g - - j k l m n o p q - s t u v w x y - a b c d e f g h i"),
  (0x1D527, "j k l m n o p q r s t u v w x y z a b - d e f g - i j k l m - o"),
  (0x1D54A, "s t u v w x y - a b c d e f g h i j k l m n o p q r s t u v w x y z a b c d e f g h"),
  (0x1D574, "i j k l m n o p q r s t u v w x y z a b c d e f g h i j k l m n o p q r s t u v w x"),
  (0x1D59E, "y z a b c d e f g h i j k l m n o p q r s t u v w x y z a b c d e f g h i j k l m n"),
  (0x1D5C8, "o p q r s t u v w x y z a b c d e f g h i j k l m n o p q r s t u v w x y z a b c d"),
  (0x1D5F2, "e f g h i j k l m n o p q r s t u v w x y z a b c d e f g h i j k l m n o p q r s t"),
  (0x1D61C, "u v w x y z a b c d e f g h i j k l m n o p q r s t u v w x y z a b c d e f g h i j"),
  (0x1D646, "k l m n o p q r s t u v w x y z a b c d e f g h i j k l m n o p q r s t u v w x y z"),
  (0x1D670, "a b c d e f g h i j k l m n o p q r s t u v w x y z a b c d e f g h i j k l m n o p"),
  (0x1D69A, "q r s t u v w x y z i j - - a b g d e z e th i k l m n x o p r th s t u ph kh ps o"),
  (0x1D6C1, "d a b g d e z e th i k l m n x o p r s s t u ph kh ps o d e th k ph r p a b g d e z"),
  (0x1D6E8, "e th i k l m n x o p r th s t u ph kh ps o d a b g d e z e th i k l m n x o p r s s"),
  (0x1D70F, "t u ph kh ps o d e th k ph r p a b g d e z e th i k l m n x o p r th s t u ph kh ps"),
  (0x1D734, "o d a b g d e z e th i k l m n x o p r s s t u ph kh ps o d e th k ph r p a b g d e"),
  (0x1D75B, "z e th i k l m n x o p r th s t u ph kh ps o d a b g d e z e th i k l m n x o p r s"),
  (0x1D782, "s t u ph kh ps o d e th k ph r p a b g d e z e th i k l m n x o p r th s t u ph kh"),
  (0x1D7A7, "ps o d a b g d e z e th i k l m n x o p r s s t u ph kh ps o d e th k ph r p w w"),
  (0x1D7CE, "0 1 2 3 4 5 6 7 8 9 0 1 2 3 4 5 6 7 8 9 0 1 2 3 4 5 6 7 8 9 0 1 2 3 4 5 6 7 8 9 0 1"),
  (0x1D7F8, "2 3 4 5 6 7 8 9"),
  (0x1EE00, "_ b j d - w z h t y k l m n s - f s q r sh t th kh dh d z g b n f q - b j - h - - h"),
  (0x1EE29, "y k l m n s - f s q - sh t th kh - d - g"),
  (0x1EE42, "j"),
  (0x1EE47, "h - y - l - n s - - s q - sh - - kh - d - g - n - q - b j - h - - h t y k - m n s"),
  (0x1EE70, "f s q - sh t th kh - d z g b - f - _ b j d h w z h t y - l m n s - f s q r sh t th"),
  (0x1EE97, "kh dh d z g"),
  (0x1EEA1, "b j d - w z h t y - l m n s - f s q r sh t th kh dh d z g"),
  (0x1F004, "mahjong-"),
  (0x1F0CF, "black-joker-"),
  (0x1F100, "0- 0- 1- 2- 3- 4- 5- 6- 7- 8- 9-"),
  (0x1F110, "-a- -b- -c- -d- -e- -f- -g- -h- -i- -j- -k- -l- -m- -n- -o- -p- -q- -r- -s- -t- -u-"),
  (0x1F125, "-v- -w- -x- -y- -z- -s- c r cd wz - a b c d e f g h i j k l m n o p q r s t u v w x"),
  (0x1F148, "y z hv mv sd ss ppv wc a b c d e f g h i j k l m n o p q r s t u v w x y z mc md mr"),
  (0x1F170, "a b c d e f g h i j k l m n o parking- q r s t u v w x y z"),
  (0x1F18E, "ab- - dj cl- cool- free- id- new- ng- ok- sos- up- vs-"),
  (0x1F1E6, "a b c d e f g h i j k l m n o p q r s t u v w x y z hoka koko- sa-"),
  (0x1F210, "shou zi shuang te er duo jie tian jiao ying u7121- liao qian hou zai xin chu zhong"),
  (0x1F222, "sheng fan sheng chui yan tou bo yi san you zuo zhong you u6307- zou da u7981-"),
  (0x1F233, "u7a7a- u5408- u6e80- u6709- u6708- u7533- u5272- u55b6- pei"),
  (0x1F240, "-ben- -san- -er- -an- -dian- -da- -dao- -sheng- -bai-"),
  (0x1F250, "ideograph-advantage- accept-"),
  (0x1F300, "cyclone- foggy- closed-umbrella- night-with-stars- sunrise-over-mountains- sunrise-"),
  (0x1F306, "city-sunset- city-sunrise- rainbow- bridge-at-night- ocean- volcano- milky-way-"),
  (0x1F30D, "earth-africa- earth-americas- earth-asia- globe-with-meridians- new-moon-"),
  (0x1F312, "waxing-crescent-moon- first-quarter-moon- moon- full-moon- waning-gibbous-moon-"),
  (0x1F317, "last-quarter-moon- waning-crescent-moon- crescent-moon- new-moon-with-face-"),
  (0x1F31B, "first-quarter-moon-with-face- last-quarter-moon-with-face- full-moon-with-face-"),
  (0x1F31E, "sun-with- star2- stars- thermometer- - - white-sun-with-small-cloud-"),
  (0x1F325, "white-sun-behind-cloud- white-sun-behind-cloud-with-rain- cloud-with-rain-"),
  (0x1F328, "cloud-with-snow- cloud-with-lightning- cloud-with-tornado- fog- wind-blowing-face-"),
  (0x1F32D, "hot-dog- taco- burrito- chestnut- seedling- evergreen-tree- deciduous-tree-"),
  (0x1F334, "palm-tree- cactus- hot-pepper- tulip- cherry-blossom- rose- hibiscus- sunflower-"),
  (0x1F33C, "blossom- corn- ear-of-rice- herb- four-leaf-clover- maple-leaf- fallen-leaf-"),
  (0x1F343, "leaves- mushroom- tomato- eggplant- grapes- melon- watermelon- tangerine- lemon-"),
  (0x1F34C, "banana- pineapple- apple- green-apple- pear- peach- cherries- strawberry-"),
  (0x1F354, "hamburger- pizza- meat-on-bone- poultry-leg- rice-cracker- rice-ball- rice- curry-"),
  (0x1F35C, "ramen- spaghetti- bread- fries- sweet-potato- dango- oden- sushi- fried-shrimp-"),
  (0x1F365, "fish-cake- icecream- shaved-ice- ice-cream- doughnut- cookie- chocolate-bar- candy-"),
  (0x1F36D, "lollipop- custard- honey-pot- cake- bento- stew- egg- fork-and-knife- tea- sake-"),
  (0x1F377, "wine-glass- cocktail- tropical-drink- beer- beers- baby-bottle-"),
  (0x1F37D, "fork-and-knife-with-plate- bottle-with-popping-cork- popcorn- ribbon- gift-"),
  (0x1F382, "birthday- jack-o-lantern- christmas-tree- santa- fireworks- sparkler- balloon-"),
  (0x1F389, "tada- confetti-ball- tanabata-tree- crossed-flags- bamboo- dolls- flags-"),
  (0x1F390, "wind-chime- rice-scene- school-satchel- mortar-board- - - military-medal-"),
  (0x1F397, "reminder-ribbon- - studio-microphone- level-slider- control-knobs- - - film-frames-"),
  (0x1F39F, "admission-tickets- carousel-horse- ferris-wheel- roller-coaster-"),
  (0x1F3A3, "fishing-pole-and-fish- microphone- movie-camera- cinema- headphones- art- tophat-"),
  (0x1F3AA, "circus-tent- ticket- clapper- performing-arts- video-game- dart- slot-machine-"),
  (0x1F3B1, "8ball- game-die- bowling- flower-playing-cards- musical-note- notes- saxophone-"),
  (0x1F3B8, "guitar- musical-keyboard- trumpet- violin- musical-score- running-shirt-with-sash-"),
  (0x1F3BE, "tennis- ski- basketball- checkered-flag- snowboarder- runner- surfer- sports-medal-"),
  (0x1F3C6, "trophy- horse-racing- football- rugby-football- swimmer- weight-lifter- golfer-"),
  (0x1F3CD, "racing-motorcycle- racing-car- cricket-bat-and-ball- volleyball-"),
  (0x1F3D1, "field-hockey-stick-and-ball- ice-hockey-stick-and-puck-"),
  (0x1F3D3, "table-tennis-paddle-and-ball- snow-capped-mountain- camping- beach-with-umbrella-"),
  (0x1F3D7, "building-construction- house-buildings- cityscape- derelict-house-building-"),
  (0x1F3DB, "classical-building- desert- desert-island- national-park- stadium- house-"),
  (0x1F3E1, "house-with-garden- office- post-office- european-post-office- hospital- bank- atm-"),
  (0x1F3E8, "hotel- love-hotel- convenience-store- school- department-store- factory-"),
  (0x1F3EE, "izakaya-lantern- japanese-castle- european-castle- - - waving-white-flag-"),
  (0x1F3F4, "waving-black-flag- rosette- - label- badminton-racquet-and-shuttlecock-"),
  (0x1F3F9, "bow-and-arrow- amphora- emoji-modifier-fitzpatrick-type-1-2-"),
  (0x1F3FC, "emoji-modifier-fitzpatrick-type-3- emoji-modifier-fitzpatrick-type-4-"),
  (0x1F3FE, "emoji-modifier-fitzpatrick-type-5- emoji-modifier-fitzpatrick-type-6- rat- mouse2-"),
  (0x1F402, "ox- water-buffalo- cow2- tiger2- leopard- rabbit2- cat2- dragon- crocodile- whale2-"),
  (0x1F40C, "snail- snake- racehorse- ram- goat- sheep- monkey- rooster- chicken- dog2- pig2-"),
  (0x1F417, "boar- elephant- octopus- shell- bug- ant- bee- beetle- fish- tropical-fish-"),
  (0x1F421, "blowfish- turtle- hatching-chick- baby-chick- hatched-chick- bird- penguin- koala-"),
  (0x1F429, "poodle- dromedary-camel- two-hump-camel- flipper- mouse-face- cow-face- tiger-face-"),
  (0x1F430, "rabbit-face- cat-face- dragon- whale- horse-face- monkey- dog-face- pig-face- frog-"),
  (0x1F439, "hamster- wolf- bear- panda- pig-nose- feet- chipmunk- eyes- eye- ear- nose- lips-"),
  (0x1F445, "tongue- point-up-2- point-down- point-left- point-right- facepunch- wave- ok-hand-"),
  (0x1F44D, "thumbsup- thumbsdown- clap- open-hands- crown- womans-hat- eyeglasses- necktie-"),
  (0x1F455, "shirt- jeans- dress- kimono- bikini- womans-clothes- purse- handbag- pouch-"),
  (0x1F45E, "mans-shoe- athletic-shoe- high-heel- sandal- boot- footprints- bust-in-silhouette-"),
  (0x1F465, "busts-in-silhouette- boy- girl- man- woman- family- couple- two-men-holding-hands-"),
  (0x1F46D, "two-women-holding-hands- cop- dancers- bride-with-veil- person-with-blond-hair-"),
  (0x1F472, "man-with-gua-pi-mao- man-with-turban- older-man- older-woman- baby-"),
  (0x1F477, "construction-worker- princess- japanese-ogre- japanese-goblin- ghost- angel- alien-"),
  (0x1F47E, "space-invader- imp- skull- information-desk-person- guardsman- dancer- lipstick-"),
  (0x1F485, "nail-care- massage- haircut- barber- syringe- pill- kiss-mark- love-letter- ring-"),
  (0x1F48E, "gem- couplekiss- bouquet- couple-with-heart- wedding- heartbeat- broken-heart-"),
  (0x1F495, "two-hearts- sparkling-heart- heartpulse- cupid- blue-heart- green-heart-"),
  (0x1F49B, "yellow-heart- purple-heart- gift-heart- revolving-hearts- heart-decoration-"),
  (0x1F4A0, "diamond-shape-with-a-dot-inside- bulb- anger- bomb- zzz- boom- sweat-drops-"),
  (0x1F4A7, "droplet- dash- poop- muscle- dizzy- speech-balloon- thought-balloon- white-flower-"),
  (0x1F4AF, "100- moneybag- currency-exchange- heavy-dollar-sign- credit-card- yen- dollar-"),
  (0x1F4B6, "euro- pound- money-with-wings- chart- seat- computer- briefcase- minidisc-"),
  (0x1F4BE, "floppy-disk- cd- dvd- file-folder- open-file-folder- page-with-curl-"),
  (0x1F4C4, "page-facing-up- date- tear-off-calendar- card-index- chart-with-upwards-trend-"),
  (0x1F4C9, "chart-with-downwards-trend- bar-chart- clipboard- pushpin- round-pushpin-"),
  (0x1F4CE, "paperclip- straight-ruler- triangular-ruler- bookmark-tabs- ledger- notebook-"),
  (0x1F4D4, "notebook-with-decorative-cover- closed-book- book- green-book- blue-book-"),
  (0x1F4D9, "orange-book- books- name-badge- scroll- pencil- telephone-receiver- pager- fax-"),
  (0x1F4E1, "satellite-antenna- loudspeaker- mega- outbox-tray- inbox-tray- package- e-mail-"),
  (0x1F4E8, "incoming-envelope- envelope-with-arrow- mailbox-closed- mailbox- mailbox-with-mail-"),
  (0x1F4ED, "mailbox-with-no-mail- postbox- postal-horn- newspaper- iphone- calling-"),
  (0x1F4F3, "vibration-mode- mobile-phone-off- no-mobile-phones- signal-strength- camera-"),
  (0x1F4F8, "camera-with-flash- video-camera- tv- radio- vhs- film-projector- - prayer-beads-"),
  (0x1F500, "twisted-rightwards-arrows- repeat- repeat-one- arrows-clockwise-"),
  (0x1F504, "arrows-counterclockwise- low-brightness- high-brightness- mute- speaker- sound-"),
  (0x1F50A, "loud-sound- battery- electric-plug- mag- mag-right- lock-with-ink-pen-"),
  (0x1F510, "closed-lock-with-key- key- lock- unlock- bell- no-bell- bookmark- link-"),
  (0x1F518, "radio-button- back- end- on- soon- top- underage- ten- capital-abcd- abcd- 1234-"),
  (0x1F523, "symbols- abc- fire- flashlight- wrench- hammer- nut-and-bolt- hocho- gun-"),
  (0x1F52C, "microscope- telescope- crystal-ball- six-pointed-star- beginner- trident-"),
  (0x1F532, "black-square-button- white-square-button- red-circle- large-blue-circle-"),
  (0x1F536, "large-orange-diamond- large-blue-diamond- small-orange-diamond- small-blue-diamond-"),
  (0x1F53A, "small-red-triangle- small-red-triangle-down- arrow-up-small- arrow-down-small-"),
  (0x1F549, "om-symbol- dove-of-peace- kaaba- mosque- synagogue- menorah-with-nine-branches-"),
  (0x1F550, "clock1- clock2- clock3- clock4- clock5- clock6- clock7- clock8- clock9- clock10-"),
  (0x1F55A, "clock11- clock12- clock130- clock230- clock330- clock430- clock530- clock630-"),
  (0x1F562, "clock730- clock830- clock930- clock1030- clock1130- clock1230-"),
  (0x1F56F, "candle- mantelpiece-clock- - - hole- man-in-business-suit-levitating-"),
  (0x1F575, "sleuth-or-spy- dark-sunglasses- spider- spider-web- joystick- man-dancing-"),
  (0x1F587, "linked-paperclips- - - lower-left-ballpoint-pen- lower-left-fountain-pen-"),
  (0x1F58C, "lower-left-paintbrush- lower-left-crayon- - - raised-hand-with-fingers-splayed-"),
  (0x1F595, "reversed-hand-with-middle-finger-extended-"),
  (0x1F596, "raised-hand-with-part-between-middle-and-ring-fingers-"),
  (0x1F5A4, "black-heart- desktop-computer- - - printer-"),
  (0x1F5B1, "three-button-mouse- trackball-"),
  (0x1F5BC, "frame-with-picture-"),
  (0x1F5C2, "card-index-dividers- card-file-box- file-cabinet-"),
  (0x1F5D1, "wastebasket- spiral-note-pad- spiral-calendar-pad-"),
  (0x1F5DC, "compression- old-key- rolled-up-newspaper- - - dagger-knife-"),
  (0x1F5E3, "speaking-head-in-silhouette-"),
  (0x1F5E8, "left-speech-bubble-"),
  (0x1F5EF, "right-anger-bubble-"),
  (0x1F5F3, "ballot-box-with-ballot-"),
  (0x1F5FA, "world-map- mount-fuji- tokyo-tower- statue-of-liberty- map-of-japan- moyai-"),
  (0x1F600, "grinning- grin- joy- smiley- smile- sweat-smile- laughing- innocent- smiling-imp-"),
  (0x1F609, "wink- blush- yum- relieved- heart-eyes- sunglasses- smirk- neutral- expressionless-"),
  (0x1F612, "unamused- sweat- pensive- confused- confounded- kissing- kissing-heart-"),
  (0x1F619, "kissing-smiling-eyes- kissing-closed-eyes- stuck-out-tongue-"),
  (0x1F61C, "stuck-out-tongue-winking-eye- stuck-out-tongue-closed-eyes- disappointed- worried-"),
  (0x1F620, "angry- rage- cry- persevere- triumph- disappointed-relieved- frowning- anguished-"),
  (0x1F628, "fearful- weary- sleepy- tired- grimacing- sob- open-mouth- hushed- cold-sweat-"),
  (0x1F631, "scream- astonished- flushed- sleeping- dizzy- no-mouth- mask- smile-cat- joy-cat-"),
  (0x1F63A, "smiley-cat- heart-eyes-cat- smirk-cat- kissing-cat- pouting-cat- crying-cat-"),
  (0x1F640, "scream-cat- slightly-frowning- slightly-smiling- upside-down-face-"),
  (0x1F644, "face-with-rolling-eyes- no-good- ok-woman- bow- see-no-evil- hear-no-evil-"),
  (0x1F64A, "speak-no-evil- raising-hand- raised-hands- person-frowning-"),
  (0x1F64E, "person-with-pouting-face- pray-"),
  (0x1F680, "rocket- helicopter- steam-locomotive- railway-car- bullettrain-side-"),
  (0x1F685, "bullettrain-front- train2- metro- light-rail- station- tram- tram-car- bus-"),
  (0x1F68D, "oncoming-bus- trolleybus- busstop- minibus- ambulance- fire-engine- police-car-"),
  (0x1F694, "oncoming-police-car- taxi- oncoming-taxi- car- oncoming-automobile- blue-car-"),
  (0x1F69A, "truck- articulated-lorry- tractor- monorail- mountain-railway- suspension-railway-"),
  (0x1F6A0, "mountain-cableway- aerial-tramway- ship- rowboat- speedboat- traffic-light-"),
  (0x1F6A6, "vertical-traffic-light- construction- rotating-light- triangular-flag-on-post-"),
  (0x1F6AA, "door- no-entry-sign- smoking- no-smoking- put-litter-in-its-place- do-not-litter-"),
  (0x1F6B0, "potable-water- non-potable-water- bike- no-bicycles- bicyclist- mountain-bicyclist-"),
  (0x1F6B6, "walking- no-pedestrians- children-crossing- mens- womens- restroom- baby-symbol-"),
  (0x1F6BD, "toilet- wc- shower- bath- bathtub- passport-control- customs- baggage-claim-"),
  (0x1F6C5, "left-luggage-"),
  (0x1F6CB, "couch-and-lamp- sleeping-accommodation- shopping-bags- bellhop-bell- bed-"),
  (0x1F6D0, "place-of-worship- stop-sign- shopping-cart- - - hindu-temple-"),
  (0x1F6E0, "hammer-and-wrench- shield- oil-drum- motorway- railway-track- motor-boat-"),
  (0x1F6E9, "small-airplane- - airplane-departure- airplane-arriving-"),
  (0x1F6F3, "passenger-ship- kick-scooter- motor-scooter- canoe- sled- flying-saucer-"),
  (0x1F6F9, "skateboard- auto-rickshaw-"),
  (0x1F7E0, "orange-circle- yellow-circle- green-circle- purple-circle- brown-circle-"),
  (0x1F7E5, "red-square- blue-square- orange-square- yellow-square- green-square- purple-square-"),
  (0x1F7EB, "brown-square-"),
  (0x1F90D, "white-heart- brown-heart- pinching-hand- zipper-mouth-face- money-mouth-face-"),
  (0x1F912, "face-with-thermometer- nerd- thinking- face-with-head-bandage- robot- hugging-"),
  (0x1F918, "sign-of-the-horns- call-me-hand- raised-back-of-hand- left-facing-fist-"),
  (0x1F91C, "right-facing-fist- handshake- crossed-fingers- love-you-gesture- cowboy-hat- clown-"),
  (0x1F922, "nauseated- rolling-on-the-floor-laughing- drooling- lying- person-facepalming-"),
  (0x1F927, "sneezing- face-with-raised-eyebrow- star-struck- zany- shushing-"),
  (0x1F92C, "face-with-symbols-on-mouth- face-with-hand-over-mouth- face-vomiting-"),
  (0x1F92F, "exploding-head- pregnant-woman- breast-feeding- palms-up-together- selfie- prince-"),
  (0x1F935, "man-in-tuxedo- mrs-claus- person-shrugging- person-cartwheeling- person-juggling-"),
  (0x1F93A, "person-fencing- - people-wrestling- person-playing-water-polo-"),
  (0x1F93E, "person-playing-handball- diving-mask- wilted-flower- drum- clinking-glasses-"),
  (0x1F943, "tumbler-glass- spoon- goal-net- - 1st-place-medal- 2nd-place-medal-"),
  (0x1F949, "3rd-place-medal- boxing-glove- martial-arts-uniform- curling-stone- lacrosse-"),
  (0x1F94E, "softball- flying-disc- croissant- avocado- cucumber- bacon- potato- carrot-"),
  (0x1F956, "baguette-bread- green-salad- shallow-pan-of-food- stuffed-flatbread-"),
  (0x1F95B, "glass-of-milk- peanuts- kiwi-fruit- pancakes- dumpling- fortune-cookie-"),
  (0x1F961, "takeout-box- chopsticks- bowl-with-spoon- cup-with-straw- coconut- broccoli- pie-"),
  (0x1F968, "pretzel- cut-of-meat- sandwich- canned-food- leafy-green- mango- moon-cake- bagel-"),
  (0x1F970, "smiling-face-with-3-hearts- yawning- - partying- woozy- hot- cold-"),
  (0x1F97A, "pleading- sari- lab-coat- goggles- hiking-boot- flat-shoe- crab- lion- scorpion-"),
  (0x1F983, "turkey- unicorn- eagle- duck- bat- shark- owl- fox- butterfly- deer- gorilla-"),
  (0x1F98E, "lizard- rhinoceros- shrimp- squid- giraffe- zebra- hedgehog- sauropod- t-rex-"),
  (0x1F997, "cricket- kangaroo- llama- peacock- hippopotamus- parrot- raccoon- lobster-"),
  (0x1F99F, "mosquito- microbe- badger- swan- - - sloth- otter- orangutan- skunk- flamingo-"),
  (0x1F9AA, "oyster-"),
  (0x1F9AE, "guide-dog- probing-cane- red-hair- curly-hair- bald- white-hair- bone- leg- foot-"),
  (0x1F9B7, "tooth- superhero- supervillain- safety-vest- ear-with-hearing-aid-"),
  (0x1F9BC, "motorized-wheelchair- manual-wheelchair- mechanical-arm- mechanical-leg-"),
  (0x1F9C0, "cheese-wedge- cupcake- salt- beverage-box- garlic- onion- falafel- waffle- butter-"),
  (0x1F9C9, "mate- ice- - - person-standing- person-kneeling- deaf-person- face-with-monocle-"),
  (0x1F9D1, "adult- child- older-adult- bearded-person- woman-with-headscarf-"),
  (0x1F9D6, "person-in-steamy-room- person-climbing- person-in-lotus-position- mage- fairy-"),
  (0x1F9DB, "vampire- merperson- elf- genie- zombie- brain- orange-heart- billed-cap- scarf-"),
  (0x1F9E4, "gloves- coat- socks- red-envelope- firecracker- jigsaw- test-tube- petri-dish- dna-"),
  (0x1F9ED, "compass- abacus- fire-extinguisher- toolbox- brick- magnet- luggage- lotion-bottle-"),
  (0x1F9F5, "thread- yarn- safety-pin- teddy-bear- broom- basket- roll-of-paper- soap- sponge-"),
  (0x1F9FE, "receipt- nazar-amulet-"),
  (0x1FA70, "ballet-shoes- one-piece-swimsuit- briefs- shorts-"),
  (0x1FA78, "drop-of-blood- adhesive-bandage- stethoscope-"),
  (0x1FA80, "yo-yo- kite-"),
  (0x1FA90, "ringed-planet- chair- razor- axe- diya-lamp- banjo-"),
  (0x1FBF0, "0 1 2 3 4 5 6 7 8 9")]

end ManifestMigration.Name
