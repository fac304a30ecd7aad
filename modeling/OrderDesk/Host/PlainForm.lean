import OrderDesk.FieldPath
import OrderDesk.Text.Basic
import OrderDesk.Text.Lowercase

/-!
# Plain forms of characters in names

Names of hosts are compared in a plain form: in lower case, with one form for all characters that
mean the same, and without those that do not show. As of Unicode 17.
-/

namespace OrderDesk.Host

/-- Characters that do not show. -/
def silentRanges : List (Nat × Nat) :=
  [(173, 173), (847, 847), (4447, 4448), (6068, 6069), (6155, 6159), (8203, 8203), (8288, 8292),
   (8298, 8303), (12644, 12644), (65024, 65039), (65279, 65279), (65440, 65440), (113824, 113827),
   (119155, 119162), (917760, 917999)]

/-- Plain forms that are not just lower case: the code point of a character, its form, and the
forms of those that follow it. -/
def plainForms : List (Nat × String) :=
  [(170, "a"), (178, "2 3"), (181, "μ"), (185, "1 o » 1⁄4 1⁄2 3⁄4"), (306, "ij ij"), (319, "l· l·"),
   (329, "ʼn"), (383, "s"), (452, "dž dž dž lj lj lj nj nj nj"), (497, "dz dz dz"),
   (688, "h ɦ j r ɹ ɻ ʁ w y"), (736, "ɣ l s x ʕ"),
   (832, "\u0300 \u0301 \u0342 \u0313 \u0308\u0301 ι"), (884, "ʹ"), (894, ";"), (903, "·"),
   (976, "β θ υ ύ ϋ φ π"), (1008, "κ ρ σ ϳ θ ε ϶ ϸ ϸ σ"), (1415, "եւ"),
   (1653, "\u0627\u0674 \u0648\u0674 \u06c7\u0674 \u064a\u0674"),
   (2392, "क\u093c ख\u093c ग\u093c ज\u093c ड\u093c ढ\u093c फ\u093c य\u093c"),
   (2524, "ড\u09bc ঢ\u09bc"), (2527, "য\u09bc"), (2611, "ਲ\u0a3c"), (2614, "ਸ\u0a3c"),
   (2649, "ਖ\u0a3c ਗ\u0a3c ਜ\u0a3c"), (2654, "ਫ\u0a3c"), (2908, "ଡ\u0b3c ଢ\u0b3c"),
   (3635, "\u0e4dา"), (3763, "\u0ecdາ"), (3804, "ຫນ ຫມ"), (3852, "་"), (3907, "ག\u0fb7"),
   (3917, "ཌ\u0fb7"), (3922, "ད\u0fb7"), (3927, "བ\u0fb7"), (3932, "ཛ\u0fb7"), (3945, "ཀ\u0fb5"),
   (3955, "\u0f71\u0f72 \u0f74 \u0f71\u0f74 \u0fb2\u0f80 \u0fb2\u0f71\u0f80 \u0fb3\u0f80"),
   (3961, "\u0fb3\u0f71\u0f80"), (3969, "\u0f71\u0f80"), (3987, "\u0f92\u0fb7"),
   (3997, "\u0f9c\u0fb7"), (4002, "\u0fa1\u0fb7"), (4007, "\u0fa6\u0fb7"), (4012, "\u0fab\u0fb7"),
   (4025, "\u0f90\u0fb5"), (4348, "ნ"),
   (5024, "Ꭰ Ꭱ Ꭲ Ꭳ Ꭴ Ꭵ Ꭶ Ꭷ Ꭸ Ꭹ Ꭺ Ꭻ Ꭼ Ꭽ Ꭾ Ꭿ Ꮀ Ꮁ Ꮂ Ꮃ Ꮄ Ꮅ Ꮆ Ꮇ Ꮈ Ꮉ Ꮊ Ꮋ Ꮌ Ꮍ Ꮎ Ꮏ Ꮐ Ꮑ Ꮒ Ꮓ Ꮔ Ꮕ Ꮖ Ꮗ Ꮘ Ꮙ"),
   (5066, "Ꮚ Ꮛ Ꮜ Ꮝ Ꮞ Ꮟ Ꮠ Ꮡ Ꮢ Ꮣ Ꮤ Ꮥ Ꮦ Ꮧ Ꮨ Ꮩ Ꮪ Ꮫ Ꮬ Ꮭ Ꮮ Ꮯ Ꮰ Ꮱ Ꮲ Ꮳ Ꮴ Ꮵ Ꮶ Ꮷ Ꮸ Ꮹ Ꮺ Ꮻ Ꮼ Ꮽ Ꮾ Ꮿ Ᏸ Ᏹ Ᏺ Ᏻ"),
   (5108, "Ᏼ Ᏽ"), (5112, "Ᏸ Ᏹ Ᏺ Ᏻ Ᏼ Ᏽ"), (7296, "в д о с т т ъ ѣ ꙋ"),
   (7468, "a æ b ᴯ d e ǝ g h i j k l m n ᴻ o ȣ p r t u w a ɐ ɑ ᴂ b d e ə ɛ ɜ g ᵎ k m ŋ o ɔ ᴖ ᴗ"),
   (7510, "p t u ᴝ ɯ v ᴥ β γ δ φ χ i r u v β γ ρ φ χ"), (7544, "н"),
   (7579, "ɒ c ɕ ð ɜ f ɟ ɡ ɥ ɨ ɩ ɪ ᵻ ʝ ɭ ᶅ ʟ ɱ ɰ ɲ ɳ ɴ ɵ ɸ ʂ ʃ ƫ ʉ ʊ ᴜ ʋ ʌ z ʐ ʑ ʒ θ"),
   (7834, "aʾ ṡ"), (8049, "ά ὲ έ ὴ ή ὶ ί ὸ ό ὺ ύ ὼ ώ"),
   (8064, "ἀι ἁι ἂι ἃι ἄι ἅι ἆι ἇι ἀι ἁι ἂι ἃι ἄι ἅι ἆι ἇι ἠι ἡι ἢι ἣι ἤι ἥι ἦι ἧι ἠι ἡι ἢι ἣι"),
   (8092, "ἤι ἥι ἦι ἧι ὠι ὡι ὢι ὣι ὤι ὥι ὦι ὧι ὠι ὡι ὢι ὣι ὤι ὥι ὦι ὧι ᾰ ᾱ ὰι αι άι"),
   (8119, "ᾶι ᾰ ᾱ ὰ ά αι"), (8126, "ι"), (8130, "ὴι ηι ήι"), (8135, "ῆι ὲ έ ὴ ή ηι"), (8147, "ΐ"),
   (8155, "ί"), (8163, "ΰ"), (8171, "ύ"), (8175, "\x60"), (8178, "ὼι ωι ώι"),
   (8183, "ῶι ὸ ό ὼ ώ ωι"), (8209, "‐"), (8243, "′′ ′′′ ‵ ‵‵ ‵‵‵"), (8252, "!!"), (8279, "′′′′"),
   (8304, "0 i"), (8308, "4 5 6 7 8 9 + − = ( ) n 0 1 2 3 4 5 6 7 8 9 + − = ( )"),
   (8336, "a e o x ə h k l m n p s t"), (8360, "rs"), (8450, "c °c"),
   (8455, "ɛ ℈ °f g h h h h ħ i i l l ℔ n no ℗ ℘ p q r r r ℞ ℟ sm tel tm ℣ z ℥ ω ℧ z ℩ k å b c"),
   (8495, "e e f ⅎ m o \u05d0 \u05d1 \u05d2 \u05d3 i ℺ fax π γ γ π ∑"), (8517, "d d e i j"),
   (8528, "1⁄7 1⁄9 1⁄10 1⁄3 2⁄3 1⁄5 2⁄5 3⁄5 4⁄5 1⁄6 5⁄6 1⁄8 3⁄8 5⁄8 7⁄8 1⁄ i ii iii iv v vi vii"),
   (8551, "viii ix x xi xii l c d m i ii iii iv v vi vii viii ix x xi xii l c d m"), (8585, "0⁄3"),
   (8748, "∫∫ ∫∫∫ ∮ ∮∮ ∮∮∮"), (9001, "〈 〉"),
   (9312, "1 2 3 4 5 6 7 8 9 10 11 12 13 14 15 16 17 18 19 20 (1) (2) (3) (4) (5) (6) (7) (8)"),
   (9340, "(9) (10) (11) (12) (13) (14) (15) (16) (17) (18) (19) (20)"),
   (9372, "(a) (b) (c) (d) (e) (f) (g) (h) (i) (j) (k) (l) (m) (n) (o) (p) (q) (r) (s) (t) (u)"),
   (9393, "(v) (w) (x) (y) (z) a b c d e f g h i j k l m n o p q r s t u v w x y z a b c d e f"),
   (9430, "g h i j k l m n o p q r s t u v w x y z 0"), (10764, "∫∫∫∫"), (10869, "== ==="),
   (10972, "⫝\u0338"), (11388, "j v"), (11631, "ⵡ"), (11935, "母"), (12019, "龟"),
   (12032, "一 丨 丶 丿 乙 亅 二 亠 人 儿 入 八 冂 冖 冫 几 凵 刀 力 勹 匕 匚 匸 十 卜 卩 厂 厶 又 口 囗 土 士 夂 夊 夕 大 女 子 宀 寸 小"),
   (12074, "尢 尸 屮 山 巛 工 己 巾 干 幺 广 廴 廾 弋 弓 彐 彡 彳 心 戈 戶 手 支 攴 文 斗 斤 方 无 日 曰 月 木 欠 止 歹 殳 毋 比 毛 氏 气"),
   (12116, "水 火 爪 父 爻 爿 片 牙 牛 犬 玄 玉 瓜 瓦 甘 生 用 田 疋 疒 癶 白 皮 皿 目 矛 矢 石 示 禸 禾 穴 立 竹 米 糸 缶 网 羊 羽 老 而"),
   (12158, "耒 耳 聿 肉 臣 自 至 臼 舌 舛 舟 艮 色 艸 虍 虫 血 行 衣 襾 見 角 言 谷 豆 豕 豸 貝 赤 走 足 身 車 辛 辰 辵 邑 酉 釆 里 金 長"),
   (12200, "門 阜 隶 隹 雨 靑 非 面 革 韋 韭 音 頁 風 飛 食 首 香 馬 骨 高 髟 鬥 鬯 鬲 鬼 魚 鳥 鹵 鹿 麥 麻 黃 黍 黑 黹 黽 鼎 鼓 鼠 鼻 齊"),
   (12242, "齒 龍 龜 龠"), (12290, "."), (12342, "〒 〷 十 卄 卅"), (12447, "より"), (12543, "コト"),
   (12593, "\u1100 \u1101 \u11aa \u1102 \u11ac \u11ad \u1103 \u1104 \u1105 \u11b0 \u11b1 \u11b2"),
   (12605, "\u11b3 \u11b4 \u11b5 \u111a \u1106 \u1107 \u1108 \u1121 \u1109 \u110a \u110b \u110c"),
   (12617, "\u110d \u110e \u110f \u1110 \u1111 \u1112 \u1161 \u1162 \u1163 \u1164 \u1165 \u1166"),
   (12629, "\u1167 \u1168 \u1169 \u116a \u116b \u116c \u116d \u116e \u116f \u1170 \u1171 \u1172"),
   (12641, "\u1173 \u1174 \u1175"),
   (12645, "\u1114 \u1115 \u11c7 \u11c8 \u11cc \u11ce \u11d3 \u11d7 \u11d9 \u111c \u11dd \u11df"),
   (12657, "\u111d \u111e \u1120 \u1122 \u1123 \u1127 \u1129 \u112b \u112c \u112d \u112e \u112f"),
   (12669, "\u1132 \u1136 \u1140 \u1147 \u114c \u11f1 \u11f2 \u1157 \u1158 \u1159 \u1184 \u1185"),
   (12681, "\u1188 \u1191 \u1192 \u1194 \u119e \u11a1"), (12690, "一 二 三 四 上 中 下 甲 乙 丙 丁 天 地 人"),
   (12800, "(\u1100) (\u1102) (\u1103) (\u1105) (\u1106) (\u1107) (\u1109) (\u110b) (\u110c)"),
   (12809, "(\u110e) (\u110f) (\u1110) (\u1111) (\u1112) (가) (나) (다) (라) (마) (바) (사) (아) (자)"),
   (12823, "(차) (카) (타) (파) (하) (주) (오전) (오후)"),
   (12832, "(一) (二) (三) (四) (五) (六) (七) (八) (九) (十) (月) (火) (水) (木) (金) (土) (日) (株) (有) (社) (名)"),
   (12853, "(特) (財) (祝) (労) (代) (呼) (学) (監) (企) (資) (協) (祭) (休) (自) (至) 問 幼 文 箏"),
   (12880, "pte 21 22 23 24 25 26 27 28 29 30 31 32 33 34 35 \u1100 \u1102 \u1103 \u1105 \u1106"),
   (12901, "\u1107 \u1109 \u110b \u110c \u110e \u110f \u1110 \u1111 \u1112 가 나 다 라 마 바 사 아 자 차"),
   (12920, "카 타 파 하 참고 주의 우 ㉿ 一 二 三 四 五 六 七 八 九 十 月 火 水 木 金 土 日 株 有 社 名 特 財 祝 労 秘 男 女 適 優 印 注 項"),
   (12961, "休 写 正 上 中 下 左 右 医 宗 学 監 企 資 協 夜 36 37 38 39 40 41 42 43 44 45 46 47 48 49 50 1月 2月"),
   (12994, "3月 4月 5月 6月 7月 8月 9月 10月 11月 12月 hg erg ev ltd ア イ ウ エ オ カ キ ク ケ コ サ シ ス セ ソ タ チ ツ"),
   (13026, "テ ト ナ ニ ヌ ネ ノ ハ ヒ フ ヘ ホ マ ミ ム メ モ ヤ ユ ヨ ラ リ ル レ ロ ワ ヰ ヱ ヲ 令和 アパート アルファ アンペア アール"),
   (13060, "イニング インチ ウォン エスクード エーカー オンス オーム カイリ カラット カロリー ガロン ガンマ ギガ ギニー キュリー ギルダー キロ キログラム"),
   (13078, "キロメートル キロワット グラム グラムトン クルゼイロ クローネ ケース コルナ コーポ サイクル サンチーム シリング センチ セント ダース デシ ドル トン"),
   (13096, "ナノ ノット ハイツ パーセント パーツ バーレル ピアストル ピクル ピコ ビル ファラッド フィート ブッシェル フラン ヘクタール ペソ ペニヒ ヘルツ ペンス"),
   (13115, "ページ ベータ ポイント ボルト ホン ポンド ホール ホーン マイクロ マイル マッハ マルク マンション ミクロン ミリ ミリバール メガ メガトン メートル"),
   (13134, "ヤード ヤール ユアン リットル リラ ルピー ルーブル レム レントゲン ワット 0点 1点 2点 3点 4点 5点 6点 7点 8点 9点 10点 11点 12点"),
   (13157, "13点 14点 15点 16点 17点 18点 19点 20点 21点 22点 23点 24点 hpa da au bar ov pc dm dm2 dm3 iu"),
   (13179, "平成 昭和 大正 明治 株式会社 pa na μa ma ka kb mb gb cal kcal pf nf μf μg mg kg hz khz mhz ghz"),
   (13204, "thz μl ml dl kl fm nm μm mm cm km mm2 cm2 m2 km2 mm3 cm3 m3 km3 m∕s m∕s2 pa kpa mpa"),
   (13228, "gpa rad rad∕s rad∕s2 ps ns μs ms pv nv μv mv kv mv pw nw μw mw kw mw kω mω"),
   (13251, "bq cc cd c∕kg"), (13256, "db gy ha hp in kk km kt lm ln log lx mb mil mol ph"),
   (13273, "ppm pr sr sv wb v∕m a∕m 1日 2日 3日 4日 5日 6日 7日 8日 9日 10日 11日 12日 13日 14日 15日 16日 17日"),
   (13297, "18日 19日 20日 21日 22日 23日 24日 25日 26日 27日 28日 29日 30日 31日 gal"), (42652, "ъ ь"),
   (42864, "ꝯ"), (42993, "s c f q ꟶ ꟶ ꟷ ħ œ"), (43868, "ꜧ ꬷ ɫ ꭒ"), (43881, "ʍ"),
   (43888, "Ꭰ Ꭱ Ꭲ Ꭳ Ꭴ Ꭵ Ꭶ Ꭷ Ꭸ Ꭹ Ꭺ Ꭻ Ꭼ Ꭽ Ꭾ Ꭿ Ꮀ Ꮁ Ꮂ Ꮃ Ꮄ Ꮅ Ꮆ Ꮇ Ꮈ Ꮉ Ꮊ Ꮋ Ꮌ Ꮍ Ꮎ Ꮏ Ꮐ Ꮑ Ꮒ Ꮓ Ꮔ Ꮕ Ꮖ Ꮗ Ꮘ Ꮙ"),
   (43930, "Ꮚ Ꮛ Ꮜ Ꮝ Ꮞ Ꮟ Ꮠ Ꮡ Ꮢ Ꮣ Ꮤ Ꮥ Ꮦ Ꮧ Ꮨ Ꮩ Ꮪ Ꮫ Ꮬ Ꮭ Ꮮ Ꮯ Ꮰ Ꮱ Ꮲ Ꮳ Ꮴ Ꮵ Ꮶ Ꮷ Ꮸ Ꮹ Ꮺ Ꮻ Ꮼ Ꮽ Ꮾ Ꮿ"),
   (63744, "豈 更 車 賈 滑 串 句 龜 龜 契 金 喇 奈 懶 癩 羅 蘿 螺 裸 邏 樂 洛 烙 珞 落 酪 駱 亂 卵 欄 爛 蘭 鸞 嵐 濫 藍 襤 拉 臘 蠟 廊 朗"),
   (63786, "浪 狼 郎 來 冷 勞 擄 櫓 爐 盧 老 蘆 虜 路 露 魯 鷺 碌 祿 綠 菉 錄 鹿 論 壟 弄 籠 聾 牢 磊 賂 雷 壘 屢 樓 淚 漏 累 縷 陋 勒 肋"),
   (63828, "凜 凌 稜 綾 菱 陵 讀 拏 樂 諾 丹 寧 怒 率 異 北 磻 便 復 不 泌 數 索 參 塞 省 葉 說 殺 辰 沈 拾 若 掠 略 亮 兩 凉 梁 糧 良 諒"),
   (63870, "量 勵 呂 女 廬 旅 濾 礪 閭 驪 麗 黎 力 曆 歷 轢 年 憐 戀 撚 漣 煉 璉 秊 練 聯 輦 蓮 連 鍊 列 劣 咽 烈 裂 說 廉 念 捻 殮 簾 獵"),
   (63912, "令 囹 寧 嶺 怜 玲 瑩 羚 聆 鈴 零 靈 領 例 禮 醴 隸 惡 了 僚 寮 尿 料 樂 燎 療 蓼 遼 龍 暈 阮 劉 杻 柳 流 溜 琉 留 硫 紐 類 六"),
   (63954, "戮 陸 倫 崙 淪 輪 律 慄 栗 率 隆 利 吏 履 易 李 梨 泥 理 痢 罹 裏 裡 里 離 匿 溺 吝 燐 璘 藺 隣 鱗 麟 林 淋 臨 立 笠 粒 狀 炙"),
   (63996, "識 什 茶 刺 切 度 拓 糖 宅 洞 暴 輻 行 降 見 廓 兀 嗀 﨎 﨏 塚 﨑 晴 﨓 﨔 凞 猪 益 礼 神 祥 福 靖 精 羽 﨟 蘒 﨡 諸 﨣 﨤 逸"),
   (64038, "都 﨧 﨨 﨩 飯 飼 館 鶴 郞 隷 侮 僧 免 勉 勤 卑 喝 嘆 器 塀 墨 層 屮 悔 慨 憎 懲 敏 既 暑 梅 海 渚 漢 煮 爫 琢 碑 社 祉 祈 祐"),
   (64080, "祖 祝 禍 禎 穀 突 節 練 縉 繁 署 者 臭 艹 艹 著 褐 視 謁 謹 賓 贈 辶 逸 難 響 頻 恵 𤋮 舘"),
   (64112, "並 况 全 侀 充 冀 勇 勺 喝 啕 喙 嗢 塚 墳 奄 奔 婢 嬨 廒 廙 彩 徭 惘 慎 愈 憎 慠 懲 戴 揄 搜 摒 敖 晴 朗 望 杖 歹 殺 流 滛 滋"),
   (64154, "漢 瀞 煮 瞧 爵 犯 猪 瑱 甆 画 瘝 瘟 益 盛 直 睊 着 磌 窱 節 类 絛 練 缾 者 荒 華 蝹 襁 覆 視 調 諸 請 謁 諾 諭 謹 變 贈 輸 遲"),
   (64196, "醙 鉶 陼 難 靖 韛 響 頋 頻 鬒 龜 𢡊 𢡄 𣏕 㮝 䀘 䀹 𥉉 𥳐 𧻓 齃 龎"), (64256, "ff fi fl ffi ffl st st"),
   (64275, "մն մե մի վն մխ"),
   (64285, "\u05d9\u05b4 \ufb1e \u05f2\u05b7 \u05e2 \u05d0 \u05d3 \u05d4 \u05db \u05dc \u05dd"),
   (64295, "\u05e8 \u05ea + \u05e9\u05c1 \u05e9\u05c2 \u05e9\u05bc\u05c1 \u05e9\u05bc\u05c2"),
   (64302, "\u05d0\u05b7 \u05d0\u05b8 \u05d0\u05bc \u05d1\u05bc \u05d2\u05bc \u05d3\u05bc"),
   (64308, "\u05d4\u05bc \u05d5\u05bc \u05d6\u05bc"),
   (64312, "\u05d8\u05bc \u05d9\u05bc \u05da\u05bc \u05db\u05bc \u05dc\u05bc"),
   (64318, "\u05de\u05bc"), (64320, "\u05e0\u05bc \u05e1\u05bc"),
   (64323, "\u05e3\u05bc \u05e4\u05bc"),
   (64326, "\u05e6\u05bc \u05e7\u05bc \u05e8\u05bc \u05e9\u05bc \u05ea\u05bc \u05d5\u05b9"),
   (64332, "\u05d1\u05bf \u05db\u05bf \u05e4\u05bf \u05d0\u05dc \u0671 \u0671 \u067b \u067b"),
   (64340, "\u067b \u067b \u067e \u067e \u067e \u067e \u0680 \u0680 \u0680 \u0680 \u067a \u067a"),
   (64352, "\u067a \u067a \u067f \u067f \u067f \u067f \u0679 \u0679 \u0679 \u0679 \u06a4 \u06a4"),
   (64364, "\u06a4 \u06a4 \u06a6 \u06a6 \u06a6 \u06a6 \u0684 \u0684 \u0684 \u0684 \u0683 \u0683"),
   (64376, "\u0683 \u0683 \u0686 \u0686 \u0686 \u0686 \u0687 \u0687 \u0687 \u0687 \u068d \u068d"),
   (64388, "\u068c \u068c \u068e \u068e \u0688 \u0688 \u0698 \u0698 \u0691 \u0691 \u06a9 \u06a9"),
   (64400, "\u06a9 \u06a9 \u06af \u06af \u06af \u06af \u06b3 \u06b3 \u06b3 \u06b3 \u06b1 \u06b1"),
   (64412, "\u06b1 \u06b1 \u06ba \u06ba \u06bb \u06bb \u06bb \u06bb \u06c0 \u06c0 \u06c1 \u06c1"),
   (64424, "\u06c1 \u06c1 \u06be \u06be \u06be \u06be \u06d2 \u06d2 \u06d3 \u06d3"),
   (64467, "\u06ad \u06ad \u06ad \u06ad \u06c7 \u06c7 \u06c6 \u06c6 \u06c8 \u06c8 \u06c7\u0674"),
   (64478, "\u06cb \u06cb \u06c5 \u06c5 \u06c9 \u06c9 \u06d0 \u06d0 \u06d0 \u06d0 \u0649 \u0649"),
   (64490, "\u0626\u0627 \u0626\u0627 \u0626\u06d5 \u0626\u06d5 \u0626\u0648 \u0626\u0648"),
   (64496, "\u0626\u06c7 \u0626\u06c7 \u0626\u06c6 \u0626\u06c6 \u0626\u06c8 \u0626\u06c8"),
   (64502, "\u0626\u06d0 \u0626\u06d0 \u0626\u06d0 \u0626\u0649 \u0626\u0649 \u0626\u0649"),
   (64508, "\u06cc \u06cc \u06cc \u06cc \u0626\u062c \u0626\u062d \u0626\u0645 \u0626\u0649"),
   (64516, "\u0626\u064a \u0628\u062c \u0628\u062d \u0628\u062e \u0628\u0645 \u0628\u0649"),
   (64522, "\u0628\u064a \u062a\u062c \u062a\u062d \u062a\u062e \u062a\u0645 \u062a\u0649"),
   (64528, "\u062a\u064a \u062b\u062c \u062b\u0645 \u062b\u0649 \u062b\u064a \u062c\u062d"),
   (64534, "\u062c\u0645 \u062d\u062c \u062d\u0645 \u062e\u062c \u062e\u062d \u062e\u0645"),
   (64540, "\u0633\u062c \u0633\u062d \u0633\u062e \u0633\u0645 \u0635\u062d \u0635\u0645"),
   (64546, "\u0636\u062c \u0636\u062d \u0636\u062e \u0636\u0645 \u0637\u062d \u0637\u0645"),
   (64552, "\u0638\u0645 \u0639\u062c \u0639\u0645 \u063a\u062c \u063a\u0645 \u0641\u062c"),
   (64558, "\u0641\u062d \u0641\u062e \u0641\u0645 \u0641\u0649 \u0641\u064a \u0642\u062d"),
   (64564, "\u0642\u0645 \u0642\u0649 \u0642\u064a \u0643\u0627 \u0643\u062c \u0643\u062d"),
   (64570, "\u0643\u062e \u0643\u0644 \u0643\u0645 \u0643\u0649 \u0643\u064a \u0644\u062c"),
   (64576, "\u0644\u062d \u0644\u062e \u0644\u0645 \u0644\u0649 \u0644\u064a \u0645\u062c"),
   (64582, "\u0645\u062d \u0645\u062e \u0645\u0645 \u0645\u0649 \u0645\u064a \u0646\u062c"),
   (64588, "\u0646\u062d \u0646\u062e \u0646\u0645 \u0646\u0649 \u0646\u064a \u0647\u062c"),
   (64594, "\u0647\u0645 \u0647\u0649 \u0647\u064a \u064a\u062c \u064a\u062d \u064a\u062e"),
   (64600, "\u064a\u0645 \u064a\u0649 \u064a\u064a \u0630\u0670 \u0631\u0670 \u0649\u0670"),
   (64612, "\u0626\u0631 \u0626\u0632 \u0626\u0645 \u0626\u0646 \u0626\u0649 \u0626\u064a"),
   (64618, "\u0628\u0631 \u0628\u0632 \u0628\u0645 \u0628\u0646 \u0628\u0649 \u0628\u064a"),
   (64624, "\u062a\u0631 \u062a\u0632 \u062a\u0645 \u062a\u0646 \u062a\u0649 \u062a\u064a"),
   (64630, "\u062b\u0631 \u062b\u0632 \u062b\u0645 \u062b\u0646 \u062b\u0649 \u062b\u064a"),
   (64636, "\u0641\u0649 \u0641\u064a \u0642\u0649 \u0642\u064a \u0643\u0627 \u0643\u0644"),
   (64642, "\u0643\u0645 \u0643\u0649 \u0643\u064a \u0644\u0645 \u0644\u0649 \u0644\u064a"),
   (64648, "\u0645\u0627 \u0645\u0645 \u0646\u0631 \u0646\u0632 \u0646\u0645 \u0646\u0646"),
   (64654, "\u0646\u0649 \u0646\u064a \u0649\u0670 \u064a\u0631 \u064a\u0632 \u064a\u0645"),
   (64660, "\u064a\u0646 \u064a\u0649 \u064a\u064a \u0626\u062c \u0626\u062d \u0626\u062e"),
   (64666, "\u0626\u0645 \u0626\u0647 \u0628\u062c \u0628\u062d \u0628\u062e \u0628\u0645"),
   (64672, "\u0628\u0647 \u062a\u062c \u062a\u062d \u062a\u062e \u062a\u0645 \u062a\u0647"),
   (64678, "\u062b\u0645 \u062c\u062d \u062c\u0645 \u062d\u062c \u062d\u0645 \u062e\u062c"),
   (64684, "\u062e\u0645 \u0633\u062c \u0633\u062d \u0633\u062e \u0633\u0645 \u0635\u062d"),
   (64690, "\u0635\u062e \u0635\u0645 \u0636\u062c \u0636\u062d \u0636\u062e \u0636\u0645"),
   (64696, "\u0637\u062d \u0638\u0645 \u0639\u062c \u0639\u0645 \u063a\u062c \u063a\u0645"),
   (64702, "\u0641\u062c \u0641\u062d \u0641\u062e \u0641\u0645 \u0642\u062d \u0642\u0645"),
   (64708, "\u0643\u062c \u0643\u062d \u0643\u062e \u0643\u0644 \u0643\u0645 \u0644\u062c"),
   (64714, "\u0644\u062d \u0644\u062e \u0644\u0645 \u0644\u0647 \u0645\u062c \u0645\u062d"),
   (64720, "\u0645\u062e \u0645\u0645 \u0646\u062c \u0646\u062d \u0646\u062e \u0646\u0645"),
   (64726, "\u0646\u0647 \u0647\u062c \u0647\u0645 \u0647\u0670 \u064a\u062c \u064a\u062d"),
   (64732, "\u064a\u062e \u064a\u0645 \u064a\u0647 \u0626\u0645 \u0626\u0647 \u0628\u0645"),
   (64738, "\u0628\u0647 \u062a\u0645 \u062a\u0647 \u062b\u0645 \u062b\u0647 \u0633\u0645"),
   (64744, "\u0633\u0647 \u0634\u0645 \u0634\u0647 \u0643\u0644 \u0643\u0645 \u0644\u0645"),
   (64750, "\u0646\u0645 \u0646\u0647 \u064a\u0645 \u064a\u0647 \u0640\u064e\u0651"),
   (64755, "\u0640\u064f\u0651 \u0640\u0650\u0651 \u0637\u0649 \u0637\u064a \u0639\u0649"),
   (64760, "\u0639\u064a \u063a\u0649 \u063a\u064a \u0633\u0649 \u0633\u064a \u0634\u0649"),
   (64766, "\u0634\u064a \u062d\u0649 \u062d\u064a \u062c\u0649 \u062c\u064a \u062e\u0649"),
   (64772, "\u062e\u064a \u0635\u0649 \u0635\u064a \u0636\u0649 \u0636\u064a \u0634\u062c"),
   (64778, "\u0634\u062d \u0634\u062e \u0634\u0645 \u0634\u0631 \u0633\u0631 \u0635\u0631"),
   (64784, "\u0636\u0631 \u0637\u0649 \u0637\u064a \u0639\u0649 \u0639\u064a \u063a\u0649"),
   (64790, "\u063a\u064a \u0633\u0649 \u0633\u064a \u0634\u0649 \u0634\u064a \u062d\u0649"),
   (64796, "\u062d\u064a \u062c\u0649 \u062c\u064a \u062e\u0649 \u062e\u064a \u0635\u0649"),
   (64802, "\u0635\u064a \u0636\u0649 \u0636\u064a \u0634\u062c \u0634\u062d \u0634\u062e"),
   (64808, "\u0634\u0645 \u0634\u0631 \u0633\u0631 \u0635\u0631 \u0636\u0631 \u0634\u062c"),
   (64814, "\u0634\u062d \u0634\u062e \u0634\u0645 \u0633\u0647 \u0634\u0647 \u0637\u0645"),
   (64820, "\u0633\u062c \u0633\u062d \u0633\u062e \u0634\u062c \u0634\u062d \u0634\u062e"),
   (64826, "\u0637\u0645 \u0638\u0645 \u0627\u064b \u0627\u064b"),
   (64848, "\u062a\u062c\u0645 \u062a\u062d\u062c \u062a\u062d\u062c \u062a\u062d\u0645"),
   (64852, "\u062a\u062e\u0645 \u062a\u0645\u062c \u062a\u0645\u062d \u062a\u0645\u062e"),
   (64856, "\u062c\u0645\u062d \u062c\u0645\u062d \u062d\u0645\u064a \u062d\u0645\u0649"),
   (64860, "\u0633\u062d\u062c \u0633\u062c\u062d \u0633\u062c\u0649 \u0633\u0645\u062d"),
   (64864, "\u0633\u0645\u062d \u0633\u0645\u062c \u0633\u0645\u0645 \u0633\u0645\u0645"),
   (64868, "\u0635\u062d\u062d \u0635\u062d\u062d \u0635\u0645\u0645 \u0634\u062d\u0645"),
   (64872, "\u0634\u062d\u0645 \u0634\u062c\u064a \u0634\u0645\u062e \u0634\u0645\u062e"),
   (64876, "\u0634\u0645\u0645 \u0634\u0645\u0645 \u0636\u062d\u0649 \u0636\u062e\u0645"),
   (64880, "\u0636\u062e\u0645 \u0637\u0645\u062d \u0637\u0645\u062d \u0637\u0645\u0645"),
   (64884, "\u0637\u0645\u064a \u0639\u062c\u0645 \u0639\u0645\u0645 \u0639\u0645\u0645"),
   (64888, "\u0639\u0645\u0649 \u063a\u0645\u0645 \u063a\u0645\u064a \u063a\u0645\u0649"),
   (64892, "\u0641\u062e\u0645 \u0641\u062e\u0645 \u0642\u0645\u062d \u0642\u0645\u0645"),
   (64896, "\u0644\u062d\u0645 \u0644\u062d\u064a \u0644\u062d\u0649 \u0644\u062c\u062c"),
   (64900, "\u0644\u062c\u062c \u0644\u062e\u0645 \u0644\u062e\u0645 \u0644\u0645\u062d"),
   (64904, "\u0644\u0645\u062d \u0645\u062d\u062c \u0645\u062d\u0645 \u0645\u062d\u064a"),
   (64908, "\u0645\u062c\u062d \u0645\u062c\u0645 \u0645\u062e\u062c \u0645\u062e\u0645"),
   (64914, "\u0645\u062c\u062e \u0647\u0645\u062c \u0647\u0645\u0645 \u0646\u062d\u0645"),
   (64918, "\u0646\u062d\u0649 \u0646\u062c\u0645 \u0646\u062c\u0645 \u0646\u062c\u0649"),
   (64922, "\u0646\u0645\u064a \u0646\u0645\u0649 \u064a\u0645\u0645 \u064a\u0645\u0645"),
   (64926, "\u0628\u062e\u064a \u062a\u062c\u064a \u062a\u062c\u0649 \u062a\u062e\u064a"),
   (64930, "\u062a\u062e\u0649 \u062a\u0645\u064a \u062a\u0645\u0649 \u062c\u0645\u064a"),
   (64934, "\u062c\u062d\u0649 \u062c\u0645\u0649 \u0633\u062e\u0649 \u0635\u062d\u064a"),
   (64938, "\u0634\u062d\u064a \u0636\u062d\u064a \u0644\u062c\u064a \u0644\u0645\u064a"),
   (64942, "\u064a\u062d\u064a \u064a\u062c\u064a \u064a\u0645\u064a \u0645\u0645\u064a"),
   (64946, "\u0642\u0645\u064a \u0646\u062d\u064a \u0642\u0645\u062d \u0644\u062d\u0645"),
   (64950, "\u0639\u0645\u064a \u0643\u0645\u064a \u0646\u062c\u062d \u0645\u062e\u064a"),
   (64954, "\u0644\u062c\u0645 \u0643\u0645\u0645 \u0644\u062c\u0645 \u0646\u062c\u062d"),
   (64958, "\u062c\u062d\u064a \u062d\u062c\u064a \u0645\u062c\u064a \u0641\u0645\u064a"),
   (64962, "\u0628\u062d\u064a \u0643\u0645\u0645 \u0639\u062c\u0645 \u0635\u0645\u0645"),
   (64966, "\u0633\u062e\u064a \u0646\u062c\u064a"),
   (65008, "\u0635\u0644\u06d2 \u0642\u0644\u06d2 \u0627\u0644\u0644\u0647"),
   (65011, "\u0627\u0643\u0628\u0631 \u0645\u062d\u0645\u062f \u0635\u0644\u0639\u0645"),
   (65014, "\u0631\u0633\u0648\u0644 \u0639\u0644\u064a\u0647 \u0648\u0633\u0644\u0645"),
   (65017, "\u0635\u0644\u0649"), (65020, "\u0631\u06cc\u0627\u0644"), (65040, ", 、"),
   (65044, "; !"), (65047, "〖 〗"), (65073, "— – _ _ ( ) \x7b \x7d 〔 〕 【 】 《 》 〈 〉 「 」 『 』"),
   (65101, "_ _ _ , 、"), (65108, ";"), (65111, "! — ( ) \x7b \x7d 〔 〕"), (65120, "& * + -"),
   (65126, "="), (65129, "$"), (65137, "\u0640\u064b"), (65143, "\u0640\u064e"),
   (65145, "\u0640\u064f"), (65147, "\u0640\u0650"), (65149, "\u0640\u0651"),
   (65151, "\u0640\u0652 \u0621 \u0622 \u0622 \u0623 \u0623 \u0624 \u0624 \u0625 \u0625 \u0626"),
   (65162, "\u0626 \u0626 \u0626 \u0627 \u0627 \u0628 \u0628 \u0628 \u0628 \u0629 \u0629 \u062a"),
   (65174, "\u062a \u062a \u062a \u062b \u062b \u062b \u062b \u062c \u062c \u062c \u062c \u062d"),
   (65186, "\u062d \u062d \u062d \u062e \u062e \u062e \u062e \u062f \u062f \u0630 \u0630 \u0631"),
   (65198, "\u0631 \u0632 \u0632 \u0633 \u0633 \u0633 \u0633 \u0634 \u0634 \u0634 \u0634 \u0635"),
   (65210, "\u0635 \u0635 \u0635 \u0636 \u0636 \u0636 \u0636 \u0637 \u0637 \u0637 \u0637 \u0638"),
   (65222, "\u0638 \u0638 \u0638 \u0639 \u0639 \u0639 \u0639 \u063a \u063a \u063a \u063a \u0641"),
   (65234, "\u0641 \u0641 \u0641 \u0642 \u0642 \u0642 \u0642 \u0643 \u0643 \u0643 \u0643 \u0644"),
   (65246, "\u0644 \u0644 \u0644 \u0645 \u0645 \u0645 \u0645 \u0646 \u0646 \u0646 \u0646 \u0647"),
   (65258, "\u0647 \u0647 \u0647 \u0648 \u0648 \u0649 \u0649 \u064a \u064a \u064a \u064a"),
   (65269, "\u0644\u0622 \u0644\u0622 \u0644\u0623 \u0644\u0623 \u0644\u0625 \u0644\u0625"),
   (65275, "\u0644\u0627 \u0644\u0627"), (65281, "! \""), (65284, "$"),
   (65286, "& ' ( ) * + , - ."), (65296, "0 1 2 3 4 5 6 7 8 9"), (65307, ";"), (65309, "="),
   (65313, "a b c d e f g h i j k l m n o p q r s t u v w x y z"),
   (65343, "_ \x60 a b c d e f g h i j k l m n o p q r s t u v w x y z \x7b"),
   (65373, "\x7d ~ ⦅ ⦆ . 「 」 、 ・ ヲ ァ ィ ゥ ェ ォ ャ ュ ョ ッ ー ア イ ウ エ オ カ キ ク ケ コ サ シ ス セ ソ タ チ ツ テ ト"),
   (65413, "ナ ニ ヌ ネ ノ ハ ヒ フ ヘ ホ マ ミ ム メ モ ヤ ユ ヨ ラ リ ル レ ロ ワ ン \u3099 \u309a"),
   (65441, "\u1100 \u1101 \u11aa \u1102 \u11ac \u11ad \u1103 \u1104 \u1105 \u11b0 \u11b1 \u11b2"),
   (65453, "\u11b3 \u11b4 \u11b5 \u111a \u1106 \u1107 \u1108 \u1121 \u1109 \u110a \u110b \u110c"),
   (65465, "\u110d \u110e \u110f \u1110 \u1111 \u1112"),
   (65474, "\u1161 \u1162 \u1163 \u1164 \u1165 \u1166"),
   (65482, "\u1167 \u1168 \u1169 \u116a \u116b \u116c"),
   (65490, "\u116d \u116e \u116f \u1170 \u1171 \u1172"), (65498, "\u1173 \u1174 \u1175"),
   (65504, "¢ £ ¬"), (65508, "¦ ¥ ₩"), (65512, "│ ← ↑ → ↓ ■ ○"), (67457, "ː ˑ æ ʙ ɓ"),
   (67463, "ʣ ꭦ ʥ ʤ ɖ ɗ ᶑ ɘ ɞ ʩ ɤ ɢ ɠ ʛ ħ ʜ ɧ ʄ ʪ ʫ ɬ 𝼄 ꞎ ɮ 𝼅 ʎ 𝼆 ø ɶ ɷ q ɺ 𝼈 ɽ ɾ ʀ ʨ ʦ ꭧ ʧ ʈ ⱱ"),
   (67506, "ʏ ʡ ʢ ʘ ǀ ǁ ǂ 𝼊 𝼞"),
   (117974, "a b c d e f g h i j k l m n o p q r s t u v w x y z 0 1 2 3 4 5 6 7 8 9"),
   (119134, "𝅗𝅥 𝅘𝅥 𝅘𝅥𝅮 𝅘𝅥𝅯 𝅘𝅥𝅰 𝅘𝅥𝅱 𝅘𝅥𝅲"), (119227, "𝆹𝅥 𝆺𝅥 𝆹𝅥𝅮 𝆺𝅥𝅮 𝆹𝅥𝅯 𝆺𝅥𝅯"),
   (119808, "a b c d e f g h i j k l m n o p q r s t u v w x y z a b c d e f g h i j k l m n o"),
   (119849, "p q r s t u v w x y z a b c d e f g h i j k l m n o p q r s t u v w x y z a b c d"),
   (119890, "e f g"),
   (119894, "i j k l m n o p q r s t u v w x y z a b c d e f g h i j k l m n o p q r s t u v w"),
   (119935, "x y z a b c d e f g h i j k l m n o p q r s t u v w x y z a"), (119966, "c d"),
   (119970, "g"), (119973, "j k"), (119977, "n o p q"), (119982, "s t u v w x y z a b c d"),
   (119995, "f"), (119997, "h i j k l m n"),
   (120005, "p q r s t u v w x y z a b c d e f g h i j k l m n o p q r s t u v w x y z a b c d"),
   (120046, "e f g h i j k l m n o p q r s t u v w x y z a b"), (120071, "d e f g"),
   (120077, "j k l m n o p q"), (120086, "s t u v w x y"),
   (120094, "a b c d e f g h i j k l m n o p q r s t u v w x y z a b"), (120123, "d e f g"),
   (120128, "i j k l m"), (120134, "o"), (120138, "s t u v w x y"),
   (120146, "a b c d e f g h i j k l m n o p q r s t u v w x y z a b c d e f g h i j k l m n o"),
   (120187, "p q r s t u v w x y z a b c d e f g h i j k l m n o p q r s t u v w x y z a b c d"),
   (120228, "e f g h i j k l m n o p q r s t u v w x y z a b c d e f g h i j k l m n o p q r s"),
   (120269, "t u v w x y z a b c d e f g h i j k l m n o p q r s t u v w x y z a b c d e f g h"),
   (120310, "i j k l m n o p q r s t u v w x y z a b c d e f g h i j k l m n o p q r s t u v w"),
   (120351, "x y z a b c d e f g h i j k l m n o p q r s t u v w x y z a b c d e f g h i j k l"),
   (120392, "m n o p q r s t u v w x y z a b c d e f g h i j k l m n o p q r s t u v w x y z a"),
   (120433, "b c d e f g h i j k l m n o p q r s t u v w x y z a b c d e f g h i j k l m n o p"),
   (120474, "q r s t u v w x y z ı ȷ"),
   (120488, "α β γ δ ε ζ η θ ι κ λ μ ν ξ ο π ρ θ σ τ υ φ χ ψ ω ∇ α β γ δ ε ζ η θ ι κ λ μ ν ξ ο"),
   (120529, "π ρ σ σ τ υ φ χ ψ ω ∂ ε θ κ φ ρ π α β γ δ ε ζ η θ ι κ λ μ ν ξ ο π ρ θ σ τ υ φ χ ψ"),
   (120570, "ω ∇ α β γ δ ε ζ η θ ι κ λ μ ν ξ ο π ρ σ σ τ υ φ χ ψ ω ∂ ε θ κ φ ρ π α β γ δ ε ζ η"),
   (120611, "θ ι κ λ μ ν ξ ο π ρ θ σ τ υ φ χ ψ ω ∇ α β γ δ ε ζ η θ ι κ λ μ ν ξ ο π ρ σ σ τ υ φ"),
   (120652, "χ ψ ω ∂ ε θ κ φ ρ π α β γ δ ε ζ η θ ι κ λ μ ν ξ ο π ρ θ σ τ υ φ χ ψ ω ∇ α β γ δ ε"),
   (120693, "ζ η θ ι κ λ μ ν ξ ο π ρ σ σ τ υ φ χ ψ ω ∂ ε θ κ φ ρ π α β γ δ ε ζ η θ ι κ λ μ ν ξ"),
   (120734, "ο π ρ θ σ τ υ φ χ ψ ω ∇ α β γ δ ε ζ η θ ι κ λ μ ν ξ ο π ρ σ σ τ υ φ χ ψ ω ∂ ε θ κ"),
   (120775, "φ ρ π ϝ ϝ"),
   (120782, "0 1 2 3 4 5 6 7 8 9 0 1 2 3 4 5 6 7 8 9 0 1 2 3 4 5 6 7 8 9 0 1 2 3 4 5 6 7 8 9 0"),
   (120823, "1 2 3 4 5 6 7 8 9"),
   (122928, "а б в г д е ж з и к л м о п р с т у ф х ц ч ш ы э ю ꚉ ә і ј ө ү ӏ а б в г д е ж з"),
   (122969, "и к л о п с у ф х ц ч ш ъ ы ґ і ѕ џ ҫ ꙑ ұ"), (126464, "\u0627 \u0628 \u062c \u062f"),
   (126469, "\u0648 \u0632 \u062d \u0637 \u064a \u0643 \u0644 \u0645 \u0646 \u0633 \u0639"),
   (126480, "\u0641 \u0635 \u0642 \u0631 \u0634 \u062a \u062b \u062e \u0630 \u0636 \u0638"),
   (126491, "\u063a \u066e \u06ba \u06a1 \u066f"), (126497, "\u0628 \u062c"), (126500, "\u0647"),
   (126503, "\u062d"),
   (126505, "\u064a \u0643 \u0644 \u0645 \u0646 \u0633 \u0639 \u0641 \u0635 \u0642"),
   (126516, "\u0634 \u062a \u062b \u062e"), (126521, "\u0636"), (126523, "\u063a"),
   (126530, "\u062c"), (126535, "\u062d"), (126537, "\u064a"), (126539, "\u0644"),
   (126541, "\u0646 \u0633 \u0639"), (126545, "\u0635 \u0642"), (126548, "\u0634"),
   (126551, "\u062e"), (126553, "\u0636"), (126555, "\u063a"), (126557, "\u06ba"),
   (126559, "\u066f"), (126561, "\u0628 \u062c"), (126564, "\u0647"),
   (126567, "\u062d \u0637 \u064a \u0643"),
   (126572, "\u0645 \u0646 \u0633 \u0639 \u0641 \u0635 \u0642"),
   (126580, "\u0634 \u062a \u062b \u062e"), (126585, "\u0636 \u0638 \u063a \u066e"),
   (126590, "\u06a1"),
   (126592, "\u0627 \u0628 \u062c \u062f \u0647 \u0648 \u0632 \u062d \u0637 \u064a"),
   (126603, "\u0644 \u0645 \u0646 \u0633 \u0639 \u0641 \u0635 \u0642 \u0631 \u0634 \u062a"),
   (126614, "\u062b \u062e \u0630 \u0636 \u0638 \u063a"), (126625, "\u0628 \u062c \u062f"),
   (126629, "\u0648 \u0632 \u062d \u0637 \u064a"),
   (126635, "\u0644 \u0645 \u0646 \u0633 \u0639 \u0641 \u0635 \u0642 \u0631 \u0634 \u062a"),
   (126646, "\u062b \u062e \u0630 \u0636 \u0638 \u063a"), (127233, "0, 1, 2, 3, 4, 5, 6, 7, 8, 9,"),
   (127248, "(a) (b) (c) (d) (e) (f) (g) (h) (i) (j) (k) (l) (m) (n) (o) (p) (q) (r) (s) (t)"),
   (127268, "(u) (v) (w) (x) (y) (z) 〔s〕 c r cd wz 🄯 a b c d e f g h i j k l m n o p q r s t u"),
   (127301, "v w x y z hv mv sd ss ppv wc"), (127338, "mc md mr"), (127376, "dj"),
   (127488, "ほか ココ サ"),
   (127504, "手 字 双 デ 二 多 解 天 交 映 無 料 前 後 再 新 初 終 生 販 声 吹 演 投 捕 一 三 遊 左 中 右 指 走 打 禁 空 合 満 有 月 申"),
   (127545, "割 営 配"), (127552, "〔本〕 〔三〕 〔二〕 〔安〕 〔点〕 〔打〕 〔盗〕 〔勝〕 〔敗〕"), (127568, "得 可"),
   (130032, "0 1 2 3 4 5 6 7 8 9"),
   (194560, "丽 丸 乁 𠄢 你 侮 侻 倂 偺 備 僧 像 㒞 𠘺 免 兔 兤 具 𠔜 㒹 內 再 𠕋 冗 冤 仌 冬 况 𩇟 凵 刃 㓟 刻 剆 割 剷 㔕 勇 勉 勤 勺"),
   (194601, "包 匆 北 卉 卑 博 即 卽 卿 卿 卿 𠨬 灰 及 叟 𠭣 叫 叱 吆 咞 吸 呈 周 咢 哶 唐 啓 啣 善 善 喙 喫 喳 嗂 圖 嘆 圗 噑 噴 切 壮"),
   (194642, "城 埴 堍 型 堲 報 墬 𡓤 売 壷 夆 多 夢 奢 𡚨 𡛪 姬 娛 娧 姘 婦 㛮 㛼 嬈 嬾 嬾 𡧈 寃 寘 寧 寳 𡬘 寿 将 当 尢 㞁 屠 屮 峀 岍"),
   (194683, "𡷤 嵃 𡷦 嵮 嵫 嵼 巡 巢 㠯 巽 帨 帽 幩 㡢 𢆃 㡼 庰 庳 庶 廊 𪎒 廾 𢌱 𢌱 舁 弢 弢 㣇 𣊸 𦇚 形 彫 㣣 徚 忍 志 忹 悁 㤺 㤜 悔"),
   (194724, "𢛔 惇 慈 慌 慎 慌 慺 憎 憲 憤 憯 懞 懲 懶 成 戛 扝 抱 拔 捐 𢬌 挽 拼 捨 掃 揤 𢯱 搢 揅 掩 㨮 摩 摾 撝 摷 㩬 敏 敬 𣀊 旣 書"),
   (194765, "晉 㬙 暑 㬈 㫤 冒 冕 最 暜 肭 䏙 朗 望 朡 杞 杓 𣏃 㭉 柺 枅 桒 梅 𣑭 梎 栟 椔 㮝 楂 榣 槪 檨 𣚣 櫛 㰘 次 𣢧 歔 㱎 歲 殟 殺"),
   (194806, "殻 𣪍 𡴋 𣫺 汎 𣲼 沿 泍 汧 洖 派 海 流 浩 浸 涅 𣴞 洴 港 湮 㴳 滋 滇 𣻑 淹 潮 𣽞 𣾎 濆 瀹 瀞 瀛 㶖 灊 災 灷 炭 𠔥 煅 𤉣 熜"),
   (194847, "𤎫 爨 爵 牐 𤘈 犀 犕 𤜵 𤠔 獺 王 㺬 玥 㺸 㺸 瑇 瑜 瑱 璅 瓊 㼛 甤 𤰶 甾 𤲒 異 𢆟 瘐 𤾡 𤾸 𥁄 㿼 䀈 直 𥃳 𥃲 𥄙 𥄳 眞 真 真"),
   (194888, "睊 䀹 瞋 䁆 䂖 𥐝 硎 碌 磌 䃣 𥘦 祖 𥚚 𥛅 福 秫 䄯 穀 穊 穏 𥥼 𥪧 𥪧 竮 䈂 𥮫 篆 築 䈧 𥲀 糒 䊠 糨 糣 紀 𥾆 絣 䌁 緇 縂 繅"),
   (194929, "䌴 𦈨 𦉇 䍙 𦋙 罺 𦌾 羕 翺 者 𦓚 𦔣 聠 𦖨 聰 𣍟 䏕 育 脃 䐋 脾 媵 𦞧 𦞵 𣎓 𣎜 舁 舄 辞 䑫 芑 芋 芝 劳 花 芳 芽 苦 𦬼 若 茝"),
   (194970, "荣 莭 茣 莽 菧 著 荓 菊 菌 菜 𦰶 𦵫 𦳕 䔫 蓱 蓳 蔖 𧏊 蕤 𦼬 䕝 䕡 𦾱 𧃒 䕫 虐 虜 虧 虩 蚩 蚈 蜎 蛢 蝹 蜨 蝫 螆 䗗 蟡 蠁 䗹"),
   (195011, "衠 衣 𧙧 裗 裞 䘵 裺 㒻 𧢮 𧥦 䚾 䛇 誠 諭 變 豕 𧲨 貫 賁 贛 起 𧼯 𠠄 跋 趼 跰 𠣞 軔 輸 𨗒 𨗭 邔 郱 鄑 𨜮 鄛 鈸 鋗 鋘 鉼 鏹"),
   (195052, "鐕 𨯺 開 䦕 閷 𨵷 䧦 雃 嶲 霣 𩅅 𩈚 䩮 䩶 韠 𩐊 䪲 𩒖 頋 頋 頩 𩖶 飢 䬳 餩 馧 駂 駾 䯎 𩬰 鬒 鱀 鳽 䳎 䳭 鵧 𪃎 䳸 𪄅 𪈎 𪊑"),
   (195093, "麻 䵖 黹 黾 鼅 鼏 鼖 鼻 𪘀")]

/-- Characters that no name has, closed up where only characters with a plain form of their own
lie between them. -/
def refusedRanges : List (Nat × Nat) :=
  [(0, 32), (35, 35), (37, 37), (47, 47), (58, 58), (60, 60), (62, 94), (124, 124), (127, 160),
   (168, 168), (175, 175), (180, 180), (184, 184), (728, 733), (888, 890), (896, 909), (930, 930),
   (1328, 1368), (1419, 1420), (1424, 1424), (1480, 1487), (1515, 1518), (1525, 1541), (1564, 1564),
   (1757, 1757), (1806, 1807), (1867, 1868), (1970, 1983), (2043, 2044), (2094, 2095), (2111, 2111),
   (2140, 2141), (2143, 2143), (2155, 2159), (2192, 2198), (2274, 2274), (2436, 2436), (2445, 2446),
   (2449, 2450), (2473, 2473), (2481, 2481), (2483, 2485), (2490, 2491), (2501, 2502), (2505, 2506),
   (2511, 2518), (2520, 2526), (2532, 2533), (2559, 2560), (2564, 2564), (2571, 2574), (2577, 2578),
   (2601, 2601), (2609, 2609), (2612, 2612), (2615, 2615), (2618, 2619), (2621, 2621), (2627, 2630),
   (2633, 2634), (2638, 2640), (2642, 2648), (2653, 2661), (2679, 2688), (2692, 2692), (2702, 2702),
   (2706, 2706), (2729, 2729), (2737, 2737), (2740, 2740), (2746, 2747), (2758, 2758), (2762, 2762),
   (2766, 2767), (2769, 2783), (2788, 2789), (2802, 2808), (2816, 2816), (2820, 2820), (2829, 2830),
   (2833, 2834), (2857, 2857), (2865, 2865), (2868, 2868), (2874, 2875), (2885, 2886), (2889, 2890),
   (2894, 2900), (2904, 2910), (2916, 2917), (2936, 2945), (2948, 2948), (2955, 2957), (2961, 2961),
   (2966, 2968), (2971, 2971), (2973, 2973), (2976, 2978), (2981, 2983), (2987, 2989), (3002, 3005),
   (3011, 3013), (3017, 3017), (3022, 3023), (3025, 3030), (3032, 3045), (3067, 3071), (3085, 3085),
   (3089, 3089), (3113, 3113), (3130, 3131), (3141, 3141), (3145, 3145), (3150, 3156), (3159, 3159),
   (3163, 3163), (3166, 3167), (3172, 3173), (3184, 3190), (3213, 3213), (3217, 3217), (3241, 3241),
   (3252, 3252), (3258, 3259), (3269, 3269), (3273, 3273), (3278, 3284), (3287, 3291), (3295, 3295),
   (3300, 3301), (3312, 3312), (3316, 3327), (3341, 3341), (3345, 3345), (3397, 3397), (3401, 3401),
   (3408, 3411), (3428, 3429), (3456, 3456), (3460, 3460), (3479, 3481), (3506, 3506), (3516, 3516),
   (3518, 3519), (3527, 3529), (3531, 3534), (3541, 3541), (3543, 3543), (3552, 3557), (3568, 3569),
   (3573, 3584), (3643, 3646), (3676, 3712), (3715, 3715), (3717, 3717), (3723, 3723), (3748, 3748),
   (3750, 3750), (3774, 3775), (3781, 3781), (3783, 3783), (3791, 3791), (3802, 3803), (3808, 3839),
   (3912, 3912), (3949, 3952), (3992, 3992), (4029, 4029), (4045, 4045), (4059, 4095), (4294, 4303),
   (4681, 4681), (4686, 4687), (4695, 4695), (4697, 4697), (4702, 4703), (4745, 4745), (4750, 4751),
   (4785, 4785), (4790, 4791), (4799, 4799), (4801, 4801), (4806, 4807), (4823, 4823), (4881, 4881),
   (4886, 4887), (4955, 4956), (4989, 4991), (5018, 5023), (5110, 5119), (5760, 5760), (5789, 5791),
   (5881, 5887), (5910, 5918), (5943, 5951), (5972, 5983), (5997, 5997), (6001, 6001), (6004, 6015),
   (6110, 6111), (6122, 6127), (6138, 6143), (6170, 6175), (6265, 6271), (6315, 6319), (6390, 6399),
   (6431, 6431), (6444, 6447), (6460, 6463), (6465, 6467), (6510, 6511), (6517, 6527), (6572, 6575),
   (6602, 6607), (6619, 6621), (6684, 6685), (6751, 6751), (6781, 6782), (6794, 6799), (6810, 6815),
   (6830, 6831), (6878, 6879), (6892, 6911), (6989, 6989), (7156, 7163), (7224, 7226), (7242, 7244),
   (7307, 7356), (7368, 7375), (7419, 7423), (7958, 7967), (8006, 8015), (8024, 8030), (8062, 8063),
   (8117, 8117), (8125, 8133), (8141, 8143), (8148, 8149), (8156, 8159), (8173, 8181), (8189, 8202),
   (8206, 8207), (8215, 8215), (8228, 8230), (8232, 8239), (8254, 8254), (8263, 8265), (8287, 8351),
   (8386, 8399), (8433, 8449), (8453, 8454), (8588, 8591), (9258, 9279), (9291, 9371),
   (10868, 10868), (11124, 11125), (11508, 11512), (11558, 11558), (11560, 11564), (11566, 11567),
   (11624, 11630), (11633, 11646), (11671, 11679), (11687, 11687), (11695, 11695), (11703, 11703),
   (11711, 11711), (11719, 11719), (11727, 11727), (11735, 11735), (11743, 11743), (11870, 11903),
   (11930, 11930), (12020, 12288), (12352, 12352), (12439, 12440), (12443, 12444), (12544, 12548),
   (12592, 12687), (12774, 12783), (12831, 12831), (13250, 13272), (42125, 42127), (42183, 42191),
   (42540, 42559), (42744, 42751), (42973, 42992), (43053, 43055), (43066, 43071), (43128, 43135),
   (43206, 43213), (43226, 43231), (43348, 43358), (43389, 43391), (43470, 43470), (43482, 43485),
   (43519, 43519), (43575, 43583), (43598, 43599), (43610, 43611), (43715, 43738), (43767, 43776),
   (43783, 43784), (43791, 43792), (43799, 43807), (43815, 43815), (43823, 43823), (43884, 43887),
   (44014, 44015), (44026, 44031), (55204, 55215), (55239, 55242), (55292, 63743), (64110, 64284),
   (64311, 64325), (64606, 64611), (64976, 65019), (65042, 65055), (65072, 65072), (65095, 65138),
   (65140, 65535), (65548, 65548), (65575, 65575), (65595, 65595), (65598, 65598), (65614, 65615),
   (65630, 65663), (65787, 65791), (65795, 65798), (65844, 65846), (65935, 65935), (65949, 65951),
   (65953, 65999), (66046, 66175), (66205, 66207), (66257, 66271), (66300, 66303), (66340, 66348),
   (66379, 66383), (66427, 66431), (66462, 66462), (66500, 66503), (66518, 66559), (66718, 66719),
   (66730, 66775), (66812, 66815), (66856, 66863), (66916, 66926), (66939, 66966), (66978, 66978),
   (66994, 66994), (67002, 67002), (67005, 67007), (67060, 67071), (67383, 67391), (67414, 67423),
   (67432, 67455), (67462, 67583), (67590, 67591), (67593, 67593), (67638, 67638), (67641, 67643),
   (67645, 67646), (67670, 67670), (67743, 67750), (67760, 67807), (67827, 67827), (67830, 67834),
   (67868, 67870), (67898, 67902), (67930, 67967), (68024, 68027), (68048, 68049), (68100, 68100),
   (68103, 68107), (68116, 68116), (68120, 68120), (68150, 68151), (68155, 68158), (68169, 68175),
   (68185, 68191), (68256, 68287), (68327, 68330), (68343, 68351), (68406, 68408), (68438, 68439),
   (68467, 68471), (68498, 68504), (68509, 68520), (68528, 68607), (68681, 68799), (68851, 68857),
   (68904, 68911), (68922, 68927), (68966, 68968), (68998, 69005), (69008, 69215), (69247, 69247),
   (69290, 69290), (69294, 69295), (69298, 69313), (69320, 69327), (69337, 69369), (69416, 69423),
   (69466, 69487), (69514, 69551), (69580, 69599), (69623, 69631), (69710, 69713), (69750, 69758),
   (69821, 69821), (69827, 69839), (69865, 69871), (69882, 69887), (69941, 69941), (69960, 69967),
   (70007, 70015), (70112, 70112), (70133, 70143), (70162, 70162), (70210, 70271), (70279, 70279),
   (70281, 70281), (70286, 70286), (70302, 70302), (70314, 70319), (70379, 70383), (70394, 70399),
   (70404, 70404), (70413, 70414), (70417, 70418), (70441, 70441), (70449, 70449), (70452, 70452),
   (70458, 70458), (70469, 70470), (70473, 70474), (70478, 70479), (70481, 70486), (70488, 70492),
   (70500, 70501), (70509, 70511), (70517, 70527), (70538, 70538), (70540, 70541), (70543, 70543),
   (70582, 70582), (70593, 70593), (70595, 70596), (70598, 70598), (70603, 70603), (70614, 70614),
   (70617, 70624), (70627, 70655), (70748, 70748), (70754, 70783), (70856, 70863), (70874, 71039),
   (71094, 71095), (71134, 71167), (71237, 71247), (71258, 71263), (71277, 71295), (71354, 71359),
   (71370, 71375), (71396, 71423), (71451, 71452), (71468, 71471), (71495, 71679), (71740, 71839),
   (71923, 71934), (71943, 71944), (71946, 71947), (71956, 71956), (71959, 71959), (71990, 71990),
   (71993, 71994), (72007, 72015), (72026, 72095), (72104, 72105), (72152, 72153), (72165, 72191),
   (72264, 72271), (72355, 72367), (72441, 72447), (72458, 72543), (72552, 72639), (72674, 72687),
   (72698, 72703), (72713, 72713), (72759, 72759), (72774, 72783), (72813, 72815), (72848, 72849),
   (72872, 72872), (72887, 72959), (72967, 72967), (72970, 72970), (73015, 73017), (73019, 73019),
   (73022, 73022), (73032, 73039), (73050, 73055), (73062, 73062), (73065, 73065), (73103, 73103),
   (73106, 73106), (73113, 73119), (73130, 73135), (73180, 73183), (73194, 73439), (73465, 73471),
   (73489, 73489), (73531, 73533), (73563, 73647), (73649, 73663), (73714, 73726), (74650, 74751),
   (74863, 74863), (74869, 74879), (75076, 77711), (77811, 77823), (78896, 78911), (78934, 78943),
   (82939, 82943), (83527, 90367), (90426, 92159), (92729, 92735), (92767, 92767), (92778, 92781),
   (92863, 92863), (92874, 92879), (92910, 92911), (92918, 92927), (92998, 93007), (93018, 93018),
   (93026, 93026), (93048, 93052), (93072, 93503), (93562, 93759), (93851, 93882), (93908, 93951),
   (94027, 94030), (94088, 94094), (94112, 94175), (94181, 94191), (94199, 94207), (101590, 101630),
   (101663, 101759), (101875, 110575), (110580, 110580), (110588, 110588), (110591, 110591),
   (110883, 110897), (110899, 110927), (110931, 110932), (110934, 110947), (110952, 110959),
   (111356, 113663), (113771, 113775), (113789, 113791), (113801, 113807), (113818, 113819),
   (113828, 117759), (118013, 118015), (118452, 118457), (118481, 118495), (118513, 118527),
   (118574, 118575), (118599, 118607), (118724, 118783), (119030, 119039), (119079, 119080),
   (119275, 119295), (119366, 119487), (119508, 119519), (119540, 119551), (119639, 119647),
   (119673, 120781), (121484, 121498), (121504, 121504), (121520, 122623), (122655, 122660),
   (122667, 122879), (122887, 122887), (122905, 122906), (122914, 122914), (122917, 122917),
   (122923, 123022), (123024, 123135), (123181, 123183), (123198, 123199), (123210, 123213),
   (123216, 123535), (123567, 123583), (123642, 123646), (123648, 124111), (124154, 124367),
   (124411, 124414), (124416, 124607), (124639, 124639), (124662, 124669), (124672, 124895),
   (124903, 124903), (124908, 124908), (124911, 124911), (124927, 124927), (125125, 125126),
   (125143, 125183), (125260, 125263), (125274, 125277), (125280, 126064), (126133, 126208),
   (126270, 126703), (126706, 126975), (127020, 127023), (127124, 127135), (127151, 127152),
   (127168, 127168), (127184, 127184), (127222, 127232), (127406, 127461), (127491, 127583),
   (127590, 127743), (128729, 128731), (128749, 128751), (128765, 128767), (128986, 128991),
   (129004, 129007), (129009, 129023), (129036, 129039), (129096, 129103), (129114, 129119),
   (129160, 129167), (129198, 129199), (129212, 129215), (129218, 129231), (129241, 129279),
   (129624, 129631), (129646, 129647), (129661, 129663), (129675, 129677), (129735, 129735),
   (129737, 129740), (129757, 129758), (129771, 129774), (129785, 129791), (129939, 129939),
   (130043, 131071), (173792, 173823), (178206, 178207), (183982, 183983), (191457, 191471),
   (192094, 196607), (201547, 201551), (210042, 1114111)]

/-- The plain form of a character that is listed. -/
def listedForm? (c : Char) : Option (List Char) := do
  let (first, forms) ← (plainForms.takeWhile (·.1 ≤ c.toNat)).getLast?
  (FieldPath.split ' ' forms.toList)[c.toNat - first]?

/-- The plain form of a character, if names may have it. -/
def plainForm? (c : Char) : Option (List Char) :=
  if Text.inRanges silentRanges c.toNat then some []
  else
    match listedForm? c with
    | some form => some form
    | none =>
      let lower := Text.lowerChar c
      if lower = [c] && Text.inRanges refusedRanges c.toNat then none else some lower

end OrderDesk.Host
