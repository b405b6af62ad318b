import SqlLens.Text.Table

/-!
Which characters domain names may hold.

A character is refused, replaced by others, perhaps by none, or kept. Letters with case are replaced by small letters,
and forms of one letter by that letter.
-/

namespace SqlLens.Domain

def otherRefused : List (Nat × Nat) := Text.Table.ranges
  ["meMCbrETehPPtCArZAFARAckeIdaTlkDAHAXAbIAqKBdnhBA"]

def isRefused (c : Char) : Bool := Text.inRanges Text.unassigned c.toNat || Text.inRanges otherRefused c.toNat

/-- Rules by which characters are replaced: the first of them, counted from the first of the rule before, how far the
last lies from it, the step from one to the next after a slash, and what the first one is replaced by. After a bracket
the others move along with it, after other signs they do not. Then stands what as many characters right behind are
replaced by, and so on; after a star, how often all this is repeated. After a bracket or an equals sign there are codes,
and after another sign texts (`Replacement.texts`). Refused characters may have rules. -/
def replacementLines : List String :=
  ["41-19>61 5F>20 8>20.308 2;a 3> 2>20.304 3;23 2>20.301,3BC 4>20.327 1;1o 3:1⁄4,1⁄2,3⁄4 4-16>E0 18-6>F8",
    "28-2E/2>101 30:i̇ 2-1=69.6A 2-2/2>135 5-C/4>13A 2;ļ 4-1=6C.B7 4-4/4>144 6:ʼn 1-2C/2>14B 2E;ÿ 1-4/2>17A 6;s 2;ɓ",
    "1-2/2>183 4;ɔ 1-4/4>188 2;ɖɗ 5;ǝəɛƒ 5;ɠɣ 3;ɩɨƙ 6;ɯɲ 3;ɵ 1-4/2>1A1 6;ʀƨ 3;ʃ 3;ƭ 2;ʈ 1-4/4>1B0 2;ʊʋ 4;ƶ 2;ʒ",
    "1-4/4>1B9 C-2:dž,lj,nj 9-E/2>1CE 11-10/2>1DF 13-2=64.7A 3-28/4>1F5 2;ƕƿ 4-38/4>1FB 26;ƞ 4-C/4>225 16;ⱥȼ 3;ƚⱦ 4;ɂ",
    "2;ƀʉʌ 3-8/2>247 6A-2/2>68 1;ɦ 2;rɹɻʁwy 25>20.306,20.307,20.30A,20.328,20.303,20.30B 8;ɣlsxʕ 60-1>300 3:̓,̈́,ι C>",
    "21-2/2>371 4;ʹ 2;ͷ 4>20.3B9 4;;ϳ 6>20.301,20.308.301 2;ά·έήί 6;ό 2;ύώ 3-10>3B1 12-8>3C3 2C;ϗβθυύϋφπ 9-16/2>3D9",
    "18;κρσ 4;θε 3;ϸ 2;σϻ 4-2>37B 3-F>450 10-1F>430 50-20/2>461 2A-34/2>48B 36;ӏ 1-C/2>4C2 F-5E/2>4D1 61-25>561 56:եւ",
    "EE:اٴ,وٴ,ۇٴ,يٴ 2E3+क़ख़ग़ज़ड़ढ़फ़ 7+य़ 7D:ড়,ঢ় 3:য় 54:ਲ਼ 3:ਸ਼ 23:ਖ਼,ਗ਼,ਜ਼ 5:ਫ਼ FE:ଡ଼,ଢ଼ 2D7:ํา 80:ໍາ 29:ຫນ,ຫມ",
    "30;་ 37:གྷ A:ཌྷ 5:དྷ 5:བྷ 5:ཛྷ D:ཀྵ A:ཱི 2:ཱུ,ྲྀ,ྲཱྀ,ླྀ,ླཱྀ C:ཱྀ 12:ྒྷ A:ྜྷ 5:ྡྷ 5:ྦྷ 5:ྫྷ D:ྐྵ E7-25>2D00 27;ⴧ",
    "6;ⴭ 2F;ნ 63-1= 299-5>13F0 3BC-1= 57-4= 475;вдос 4;ттъѣꙋ 5>1C8A 7-2A>10D0 2D-2>10FD 6F;aæ 2-2/2>62 3-8/2>65 1;ǝ",
    "2-6/2>68 8;oȣprtuwaɐɑᴂbdeəɛɜg 13;k 1-2/2>6D 1;ŋ 2;ɔᴖᴗpt 5;uᴝɯvᴥβγδφχiruvβγρφχ 20;н",
    "23;ɒcɕðɜfɟɡɥɨɩɪᵻʝɭᶅʟɱɰɲɳɴɵɸʂʃƫʉʊᴜʋʌzʐʑʒθ 65-94/2>1E01 9A:aʾ,ṡ 4;ß 2-5E/2>1EA1 68-7>1F00 10-5>1F10 10-7>1F20",
    "10-7>1F30 10-5>1F40 11-6/2>1F51 F-7>1F60 9;ά 2;έ 2;ή 2;ί 2;ό 2;ύ 2;ώ 3+ἀιἁιἂιἃιἄιἅιἆιἇιἀιἁιἂιἃιἄι",
    "D+ἅιἆιἇιἠιἡιἢιἣιἤιἥιἦιἧιἠιἡιἢιἣιἤιἥιἦιἧιὠιὡιὢιὣιὤιὥιὦιὧιὠιὡιὢιὣιὤιὥιὦιὧι 25:ὰι,αι,άι 5:ᾶι 1;ᾰᾱ 2:ὰ,ά,αι",
    "3>20.313,3B9,20.313,20.342,20.308.342 5:ὴι,ηι,ήι 5:ῆι 1-2/2>1F72 1;έ 2:ή,ηι 2>20.313.300,20.313.301,20.313.342",
    "6;ΐ 5;ῐῑὶί 5>20.314.300,20.314.301,20.314.342 6;ΰ 5;ῠῡὺύῥ 5>20.308.300,20.308.301,60 5:ὼι,ωι,ώι 5:ῶι,ὸ 2-2/2>3CC",
    "1;ὼ 2:ωι 1>20.301,20.314 3-A=20 B> 6>2010 6>20.333 18>20 4:′′,′′′ 3:‵‵,‵‵‵ 6:!! 2>20.305 9:??,?!,!? 10:′′′′ 8>20",
    "1-4= A-5= 6-8/4>30 1;i 4;567 4;9+−=()n0123456789+−=() 17;aeoxəhklmnpst 18:rs 58:a/c,a/s,c,°c 5:c/o,c/u,ɛ 4:°f",
    "1;ghhhhħ 6-1:i,l 5:n,no 4;pqrrr 7:sm,tel,tm 4;z 2;ω 2;z 2;kåbc 5;eefⅎmoאבגדi C:fax,π 2;γγπ∑ 8;ddeij",
    "B:1⁄7,1⁄9,1⁄10,1⁄3,2⁄3,1⁄5,2⁄5,3⁄5 8:4⁄5,1⁄6,5⁄6,1⁄8,3⁄8,5⁄8,7⁄8,1⁄,i,ii,iii,iv,v,vi E:vii,viii,ix,x,xi,xii,l",
    "7;cd 2:m,i,ii,iii,iv,v,vi,vii,viii,ix,x,xi C:xii,l 2;cdm 6;ↄ 6:0⁄3 A3:∫∫,∫∫∫ 3:∮∮,∮∮∮ FA-1>3008 137-8>31",
    "9#,10,20, B#(,1,20,) 28(abcdefghijklmnopqrstuvwxyz 1A-19*2>61 34;0 522:∫∫∫∫ 68:::=,==,=== 68:⫝̸ 124-2F>2C30 60;ⱡ",
    "2;ɫᵽɽ 5-4/2>2C68 6;ɑɱɐɒ 5;ⱳ 3;ⱶ 7;jvȿɀ 4-62/2>2C81 6B-2/2>2CEC 7;ⳳ 7D;ⵡ 130;母 54;龟",
    "D;一丨丶丿乙亅二亠人儿入八冂冖冫几凵刀力勹匕匚匸十卜卩厂厶又口囗土士夂夊夕大女子宀寸小尢尸屮山巛工己巾 32;干幺广廴廾弋弓彐彡彳心戈戶手支攴文斗斤方无日曰月木欠止歹殳毋比毛氏气",
    "22;水火爪父爻爿片牙牛犬玄玉瓜瓦甘生用田疋疒癶白皮皿目矛矢石示禸禾穴立竹米糸缶网羊羽老而耒耳聿肉臣自至臼 32;舌舛舟艮色艸虍虫血行衣襾見角言谷豆豕豸貝赤走足身車辛辰辵邑酉釆里金長門阜隶隹雨靑非面革韋韭音頁風飛食",
    "32;首香馬骨高髟鬥鬯鬲鬼魚鳥鹵鹿麥 F;麻黃黍黑黹黽鼎鼓鼠鼻齊齒龍龜龠 39>20 2;. 34;〒 2;十卄卅 63>20.3099,20.309A 4:より 60:コト 32;ᄀᄁ 2-2/2>11AA 1;ᄂ",
    "2;ᆭᄃᄄᄅ 4-5>11B0 6;ᄚᄆᄇᄈᄡ 5-9>1109 A-14>1161 15> 1;ᄔᄕᇇᇈᇌᇎᇓᇗᇙᄜᇝᇟᄝᄞᄠᄢᄣᄧᄩ 13-4>112B 5;ᄲᄶᅀᅇᅌᇱᇲᅗᅘᅙᆄᆅᆈᆑᆒᆔᆞᆡ",
    "15;一二三四上中下甲乙丙丁天地人 6E(ᄀᄂᄃᄅᄆᄇᄉᄋᄌᄎᄏᄐᄑᄒ가나다라마바사 15(아자차카타파하주 8:(오전),(오후) 3(一二三四五六七八九十月火水木金土日株有社名特財祝労代呼学監企資協祭休自至",
    "24;問幼文箏 C:pte 1#,21,35, F:ᄀ 1;ᄂᄃᄅᄆᄇᄉᄋᄌ 8-4>110E 5;가나다라마 5;바사아자차카타파하 9:참고,주의,우",
    "4;一二三四五六七八九十月火水木金土日株有社名特財祝労秘男女適優印注項休写正上中下左右医宗学監企資協夜 31#,36,50, F#,1,12,月 C:hg,erg,ev,ltd 4;アイウエオ",
    "5;カキクケコサシスセソタチツテト F-5>30CA 6;ヒフヘホ 4-4>30DE 5;ヤユ 2-5>30E8 6-3>30EF",
    "4:令和,アパート,アルファ,アンペア,アール,イニング,インチ,ウォン,エスクード,エーカー,オンス B:オーム,カイリ,カラット,カロリー,ガロン,ガンマ,ギガ,ギニー,キュリー,ギルダー,キロ",
    "B:キログラム,キロメートル,キロワット,グラム,グラムトン,クルゼイロ,クローネ,ケース,コルナ 9:コーポ,サイクル,サンチーム,シリング",
    "4:センチ,セント,ダース,デシ,ドル,トン,ナノ,ノット,ハイツ,パーセント,パーツ,バーレル C:ピアストル,ピクル,ピコ,ビル,ファラッド,フィート,ブッシェル,フラン,ヘクタール,ペソ,ペニヒ",
    "B:ヘルツ,ペンス,ページ,ベータ 4:ポイント,ボルト,ホン,ポンド,ホール,ホーン,マイクロ,マイル,マッハ,マルク,マンション",
    "B:ミクロン,ミリ,ミリバール,メガ,メガトン,メートル,ヤード,ヤール,ユアン,リットル,リラ B:ルピー,ルーブル,レム,レントゲン,ワット 5#,0,24,点",
    "19:hpa,da,au,bar,ov,pc,dm,dm2,dm3,iu,平成,昭和,大正,明治,株式会社 F+panaμamakakbmbgb 8:cal,kcal 2+pfnfμfμgmgkghz",
    "7:khz,mhz,ghz,thz 4+μlmldlklfmnmμmmmcmkm A:mm2,cm2,m2,km2,mm3,cm3,m3,km3,m∕s,m∕s2,pa,kpa,mpa",
    "D:gpa,rad,rad∕s,rad∕s2 4+psnsμsmspvnvμvmvkvmvpwnwμwmwkwmwkωmω 13:bq,cc,cd,c∕kg 5+dbgyhahpinkkkmktlmln",
    "A:log,lx,mb,mil,mol,ph 7:ppm,pr,sr,sv 4:wb,v∕m,a∕m 3#,1,31,日 1F:gal 7241-2C/2>A641 40-1A/2>A681 1C;ъь",
    "86-4C/4>A723 2-8/4>A725 10-38/4>A735 3C;ꝯ 9-2/2>A77A 4;ᵹ 1-8/2>A77F D;ꞌ 2;ɥ 3-2/2>A791 6-12/2>A797 14-4/4>266",
    "1;ɜɡɬ 5;ʞʇʝꭓ 4-E/2>A7B5 10;ꞔʂᶎ 3-2/2>A7C8 4;ɤ 1-E/2>A7CD 10;ƛ 15;scfqꟶ 7;ħœ 364;ꜧꬷɫꭒ D;ʍ 7-4F>13A0",
    "4D90;豈更車賈滑串句龜龜契金喇奈懶癩羅蘿螺裸邏樂洛烙珞落酪駱亂卵欄爛蘭鸞嵐濫藍襤拉臘蠟廊朗浪狼郎來冷勞擄櫓 32;爐盧老蘆虜路露魯鷺碌祿綠菉錄鹿論壟弄籠聾牢磊賂雷壘屢",
    "1A;樓淚漏累縷陋勒肋凜凌稜綾菱陵讀拏樂諾丹寧怒率異北磻便復不泌數索參塞省葉說殺辰沈拾若掠略亮兩凉梁糧良諒 32;量勵呂女廬旅濾礪閭驪麗黎力曆歷轢年憐戀撚漣煉璉秊練聯輦蓮連鍊列劣咽烈裂說廉念捻殮簾獵令囹寧嶺怜玲瑩羚",
    "32;聆鈴零靈領例禮醴隸惡了僚寮尿料 F;樂燎療蓼遼龍暈阮劉杻柳流溜琉留硫紐類六戮陸倫崙淪輪律慄栗率隆利吏履易李梨泥理痢罹裏裡里離匿溺吝燐璘藺 32;隣鱗麟林淋臨立笠粒狀炙識什茶刺切度拓糖宅洞暴輻行降見廓兀嗀 1F;塚",
    "2;晴 3;凞猪益礼神祥福靖精羽 B;蘒 2;諸 3;逸都 5;飯飼館鶴郞隷侮僧免勉勤卑喝嘆器塀墨層屮悔慨憎懲敏既暑梅海渚漢煮爫琢碑社祉祈祐祖祝禍禎穀突節練縉繁署者 32;臭艹艹著褐視謁謹賓贈辶逸難響頻恵𤋮舘",
    "14;並况全侀充冀勇勺喝啕喙嗢塚墳奄奔婢嬨廒廙彩徭惘慎愈憎慠懲戴揄搜摒敖晴朗望杖歹殺流滛滋漢瀞 2C;煮瞧爵犯猪瑱甆画瘝瘟益盛直睊着磌窱節类絛練缾者荒華蝹襁覆視調諸請謁諾諭謹變贈輸遲醙鉶陼難靖韛響頋頻鬒",
    "32;龜𢡊𢡄𣏕㮝䀘䀹𥉉𥳐𧻓齃龎 32:ff,fi,fl,ffi,ffl 5-1=73.74 E:մն,մե,մի,վն,մխ A:יִ 2:ײַ,ע,א 3;דהכלם 5:ר,ת,+,שׁ,שׂ,שּׁ,שּׂ",
    "7+אַאָאּבּגּדּהּוּזּ A:טּ,יּ,ךּ,כּ,לּ 6:מּ 2:נּ,סּ 3:ףּ,פּ 3+צּקּרּשּתּוֹבֿכֿפֿ 9+אל 1;ٱٱ 2-3;ٻپڀٺٿٹڤڦڄڃچڇ 30;ڍڍ",
    "2-2/2>68C 1-2/2>68C 3-1;ڈژڑ 6-3;کگڳڱ 10;ںںڻڻڻڻۀۀ 8-3;ہھ 8-1;ےۓ 25;ڭڭڭڭۇۇ 6-2/2>6C6 1-2/2>6C6 3:ۇٴ 1-1;ۋۅۉ",
    "6-3=6D0 4-1:ى,ئا,ئە,ئو,ئۇ,ئۆ,ئۈ E-2:ئې,ئى 6-3=6CC 4+ئجئحئمئىئيبجبحبخبمبىبيتجتحتختمتىتيثجثمثىثي",
    "15+جحجمحجحمخجخحخمسجسحسخسمصحصمضجضحضخضمطحطمظمعجعمغجغمفجفحفخفمفىفيقحقمقىقيكاكجكحكخكلكم",
    "28+كىكيلجلحلخلملىليمجمحمخمممىمينجنحنخ 11+نمنىنيهجهمهىهييجيحيخيميىييذٰرٰ",
    "F>649.670,20.64C.651,20.64D.651,20.64E.651,20.64F.651,20.650.651,20.651.670,626.631,626.632,626.645",
    "A+ئنئىئيبربزبمبنبى 8+بيترتزتمتنتىتيثرثزثمثنثىثيفىفيقىقيكاكلكمكىكيلملىليماممنرنزنمنننىنيىٰيريزيمينيىيي",
    "28+ئجئحئخئمئهبجبحبخبمبهتجتحتختمتهثمجحجم",
    "12+حجحمخجخمسجسحسخسمصحصخصمضجضحضخضمطحظمعجعمغجغمفجفحفخفمقحقمكجكحكخكلكملجلحلخلملهمجمحمخ",
    "28+ممنجنحنخنمنههجهمهٰيجيحيخيميهئمئهبم 11+بهتمتهثمثهسمسهشمشهكلكملمنمنهيميه 10:ـَّ,ـُّ,ـِّ",
    "3+طىطيعىعيغىغيسىسيشىشيحىحيجىجيخىخيصىصيضىضيشجشحشخشمشرسرصرضرطىطيعىعي",
    "20+غىغيسىسيشىشيحىحيجىجيخىخيصىصيضىضيشجشحشخشمشرسرصرضرشجشحشخشمسهشهطمسجسحسخشجشحشخطمظم 27-1=627.64B 14:تجم",
    "1-1=62A.62D.62C 2:تحم,تخم,تمج,تمح,تمخ 5-1=62C.645.62D 2:حمي,حمى,سحج,سجح,سجى 5-1=633.645.62D 2:سمج 1-1:سمم,صحح",
    "4:صمم 1-1=634.62D.645 2:شجي 1-1:شمخ,شمم 4:ضحى 1-1:ضخم,طمح 4:طمم,طمي,عجم 3-1=639.645.645 2:عمى,غمم,غمي,غمى",
    "4-1=641.62E.645 2:قمح,قمم,لحم,لحي 4:لحى 1-1:لجج,لخم,لمح 6:محج,محم,محي,مجح,مجم,مخج,مخم 9:مجخ,همج,همم,نحم,نحى",
    "5-1=646.62C.645 2:نجى,نمي,نمى 3-1=64A.645.645 2:بخي,تجي,تجى,تخي,تخى,تمي,تمى,جمي,جحى,جمى,سخى,صحي",
    "C:شحي,ضحي,لجي,لمي,يحي,يجي,يمي,ممي,قمي,نحي,قمح,لحم,عمي D:كمي,نجح,مخي,لجم,كمم,لجم,نجح,جحي,حجي,مجي,فمي,بحي",
    "C:كمم,عجم,صمم,سخي,نجي 2D:صلے,قلے,الله,اكبر,محمد,صلعم,رسول,عليه",
    "8>648.633.644.645,635.644.649,635.644.649.20.627.644.644.647.20.639.644.64A.647.20.648.633.644.645",
    "3>62C.644.20.62C.644.627.644.647,631.6CC.627.644 5-F= 10>2C 1;、 2;:;!? 4-1>3016 1A>2014 1>2013 1;__() 4>7B 1>7D",
    "1-1>3014 2-1>3010 2-1>300A 2-1>3008 2-3>300C 6;[] 2-3=20.305 4;___ 3>2C 1;、 3;;:?! 4>2014 1;() 2>7B 1>7D",
    "1-1>3014 2;#&*+-<>= 9>5C 1;$%@ 7>20.64B,640.64B,20.64C 4>20.64D",
    "2>20.64E,640.64E,20.64F,640.64F,20.650,640.650,20.651,640.651,20.652,640.652 A;ءآآأأؤؤإإئئئئااببببةة 15-3;تثجحخ",
    "14-1;دذرز 8-3;سشصضطظعغفقكلمنه 3C-1;وى 4-3=64A 4-1:لآ,لأ,لإ,لا A> 2-1F>21 20-19>61 1A-23>5B 24-1>2985 2;.",
    "1-1>300C 2;、・ヲァィゥェォャュョッーアイウエオカキクケコサシスセソタチツテト 21-5>30CA 6;ヒフヘホ 4-4>30DE 5;ヤユ 2-5>30E8 6;ワン 2-1>3099 2> 1;ᄀᄁ",
    "2-2/2>11AA 1;ᄂ 2;ᆭᄃᄄ 3;ᄅ 1-5>11B0 6;ᄚᄆᄇᄈᄡ 5-9>1109 D-5>1161 8-5>1167 8-5>116D 8-2>1173 6;¢£ 2>AC,20.304 2;¦¥₩",
    "4;│←↑→↓■○ 418-27>10428 B0-23>104D8 C0-24/2>10597 1-24/4>10598 2-4/4>1059A C-8/4>105A6 10;𐖶 1F2;ːˑæʙɓ 6-2/2>2A3",
    "1;ꭦ 2;ʤɖɗᶑɘɞʩɤɢɠʛħʜɧʄʪʫɬ𝼄ꞎɮ𝼅ʎ𝼆 18;øɶɷqɺ𝼈ɽɾʀʨʦꭧʧʈⱱ 10;ʏʡʢʘǀǁǂ𝼊𝼞 4CE-32>10CC0 D0-15>10D70 B50-1F>118C0",
    "55A0-1F>16E60 60-18>16EBB 4E00-3= 1036-19>61 1A-9>30 46E:𝅗𝅥,𝅘𝅥,𝅘𝅥𝅮,𝅘𝅥𝅯,𝅘𝅥𝅰,𝅘𝅥𝅱,𝅘𝅥𝅲 15-7=",
    "48:𝆹𝅥,𝆺𝅥,𝆹𝅥𝅮,𝆺𝅥𝅮,𝆹𝅥𝅯,𝆺𝅥𝅯 245-19*1A>61 2A4;ıȷ 4*5;αβγδεζηθικλμνξοπρθστυφχψω∇αβγδεζηθικλμνξοπρσστυφχψω∂εθκφρπ",
    "122;ϝϝ 4-9*5>30 862-8>430 9-2>43A 3-A>43E B;ыэюꚉәіјөүӏ A-8>430 9;клопсуфхцчшъыґіѕџҫꙑұ 8A6-21>1E922",
    "500*6;ابجدهوزحطيكلمنسعفصقرشتثخذضظغٮںڡٯ 301>30.2C,31.2C,32.2C,33.2C,34.2C,35.2C,36.2C,37.2C,38.2C,39.2C",
    "F(abcdefghijklmnopqrstuvwxyz 1A:〔s〕,c,r,cd,wz 6-19>61 1A:hv,mv,sd,ss,ppv,wc 20:mc,md,mr 26:dj 70:ほか,ココ,サ",
    "10;手字双デ二多解天交映無料前後再新初終生販声吹演投捕一三遊左中右指走打禁空合満有月申割営配 30:〔本〕,〔三〕,〔二〕,〔安〕 4:〔点〕,〔打〕,〔盗〕,〔勝〕,〔敗〕 C;得可 9A0-9>30",
    "FC10;丽丸乁𠄢你侮侻倂偺備僧像㒞𠘺免兔兤具𠔜㒹內再𠕋冗冤仌冬况𩇟凵刃㓟刻剆割剷㔕勇勉勤勺包匆北卉卑博即 30-2/2>537D 1;卿 2;卿𠨬灰及叟𠭣叫叱吆 9-4/4>549E 1;吸呈周",
    "4;哶唐啓啣善善喙喫喳嗂圖嘆圗噑噴切壮城埴堍型堲報墬𡓤売壷夆多夢奢𡚨𡛪姬娛娧姘婦㛮㛼嬈嬾嬾𡧈寃寘寧寳𡬘寿将当尢㞁屠屮峀岍 3A-2/2>21DE4 1;嵃 2;嵮嵫嵼巡巢㠯巽帨帽幩㡢𢆃㡼庰庳庶廊𪎒廾𢌱𢌱",
    "15;舁弢弢㣇𣊸𦇚形彫㣣徚忍志忹悁㤺㤜悔𢛔惇慈慌慎慌慺憎憲憤憯懞懲懶成戛扝抱拔捐𢬌挽拼捨掃揤𢯱搢揅掩㨮摩摾 32;撝摷㩬敏敬𣀊旣書晉㬙暑㬈㫤冒冕最暜肭䏙朗望朡杞杓𣏃㭉柺枅桒梅𣑭梎栟椔㮝楂榣槪檨𣚣櫛㰘次𣢧歔㱎歲殟殺殻",
    "32;𣪍𡴋𣫺汎𣲼沿泍汧洖派海流浩浸涅 F;𣴞洴港湮㴳滋滇𣻑淹潮𣽞𣾎濆瀹瀞瀛㶖灊災灷炭𠔥煅𤉣熜𤎫爨爵牐𤘈犀犕𤜵𤠔獺王㺬玥㺸㺸瑇瑜瑱璅瓊㼛甤𤰶甾𤲒",
    "32;異𢆟瘐𤾡𤾸𥁄㿼䀈直𥃳𥃲𥄙𥄳眞真真睊䀹瞋䁆䂖𥐝硎碌磌䃣𥘦祖𥚚𥛅福秫䄯穀穊穏𥥼𥪧𥪧竮䈂𥮫篆築䈧𥲀糒䊠糨糣 32;紀𥾆絣䌁緇縂繅䌴𦈨𦉇䍙𦋙罺𦌾羕",
    "F;翺者𦓚𦔣聠𦖨聰𣍟䏕育脃䐋脾媵𦞧𦞵𣎓𣎜舁舄辞䑫芑芋芝劳花芳芽苦𦬼若茝荣莭茣莽菧著荓菊菌菜𦰶𦵫𦳕䔫蓱蓳蔖 32;𧏊蕤𦼬䕝䕡𦾱𧃒䕫虐虜虧虩蚩蚈蜎蛢蝹蜨蝫螆䗗蟡蠁䗹衠衣𧙧裗裞䘵裺㒻𧢮𧥦䚾䛇誠諭變豕𧲨貫賁贛起𧼯𠠄跋趼跰",
    "32;𠣞軔輸𨗒𨗭邔郱鄑𨜮鄛鈸鋗鋘鉼鏹 F;鐕𨯺開䦕閷𨵷䧦雃嶲霣𩅅𩈚䩮䩶韠𩐊䪲𩒖頋頋頩𩖶飢䬳餩馧駂駾䯎𩬰鬒鱀鳽䳎䳭鵧𪃎䳸𪄅𪈎𪊑麻䵖黹黾鼅鼏鼖鼻𪘀 B0714-EF="]

structure Replacement where
  first : Nat
  last : Nat
  step : Nat
  /-- Whether the replacement moves along with the character. -/
  moves : Bool
  target : List Nat

namespace Replacement

def pairs : List Char → List (List Char)
  | one :: other :: rest => [one, other] :: pairs rest
  | _ => []

/-- The texts after a sign: letters, letters in parentheses, pairs of letters, texts with commas between them, or all
numbers from one to another, with a text before and behind them. -/
def texts : List Char → List (List Char)
  | ';' :: letters => letters.map fun c => [c]
  | '(' :: letters => letters.map fun c => ['(', c, ')']
  | '+' :: letters => pairs letters
  | '#' :: rest =>
    match Text.splitOn ',' rest with
    | [before, first, last, after] =>
      let numbers := (List.range ((Text.decimal? last).getD 0 + 1)).drop ((Text.decimal? first).getD 0)
      numbers.map fun n => before ++ (toString n).toList ++ after
    | _ => []
  | _ :: rest => Text.splitOn ',' rest
  | [] => []

/-- The number after a mark in a text, and what stands before. -/
def marked (mark : Char) (text : List Char) : List Char × Nat :=
  match Text.splitOn mark text with
  | [text, number] => (text, Text.Table.code number)
  | _ => (text, 1)

/-- The rules an entry stands for that lies behind a code, and the first character they are about. -/
def ofEntry (before : Nat) (entry : List Char) : List Replacement × Nat :=
  let isSign (c : Char) : Bool := c ∈ ['>', '=', ':', ';', '(', '+', '#']
  let right := entry.dropWhile (!isSign ·)
  let (left, times) := marked '*' (entry.takeWhile (!isSign ·))
  let (range, step) := marked '/' left
  let (first, last) := Text.Table.range before range
  let targets : List (List Nat) :=
    if right.head?.any (· ∈ ['>', '=']) then (Text.splitOn ',' right.tail).map Text.Table.codes
    else (texts right).map (List.map Char.toNat)
  let rules := (List.replicate times targets).flatten.mapIdx fun i target =>
    let shift := i * (last - first + 1)
    ⟨first + shift, last + shift, step, right.head? = some '>', target⟩
  (rules, first)

def applies (rule : Replacement) (n : Nat) : Bool :=
  rule.first ≤ n && n ≤ rule.last && (n - rule.first) % rule.step = 0

def apply (rule : Replacement) (n : Nat) : List Char :=
  rule.target.map fun code => Char.ofNat (if rule.moves then code + (n - rule.first) else code)

end Replacement

def replacements : List Replacement :=
  (Text.Table.along Replacement.ofEntry 0 (Text.Table.entries replacementLines)).flatten

def mapChar (c : Char) : Option (List Char) :=
  if isRefused c then none
  else
    match replacements.find? (·.applies c.toNat) with
    | some rule => some (rule.apply c.toNat)
    | none => some [c]

def isKept (c : Char) : Bool := mapChar c = some [c]

end SqlLens.Domain
