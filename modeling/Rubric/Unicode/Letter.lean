/-
  Rubric.Unicode.Letter

  Letters, digits and their lower-case forms.

  `alphanumericText` lists the code points with the property `Alphabetic` or a
  numeric general category, `lowerText` the code points beyond ASCII that have a
  lower-case form of one character. The one character whose lower-case form has
  two, the capital I with a dot above, is written out in `lower`.
-/
import Rubric.Unicode.Ranges

namespace Rubric.Unicode

/-- The code points of letters and numbers, as ranges. -/
def alphanumericText : String :=
  "30-39 41-5a 61-7a aa b2-b3 b5 b9-ba bc-be c0-d6 d8-f6 f8-2c1 2c6-2d1 2e0-2e4 2ec 2ee 345
363-374 376-377 37a-37d 37f 386 388-38a 38c 38e-3a1 3a3-3f5 3f7-481 48a-52f 531-556 559
560-588 5b0-5bd 5bf 5c1-5c2 5c4-5c5 5c7 5d0-5ea 5ef-5f2 610-61a 620-657 659-669 66e-6d3
6d5-6dc 6e1-6e8 6ed-6fc 6ff 710-73f 74d-7b1 7c0-7ea 7f4-7f5 7fa 800-817 81a-82c 840-858
860-86a 870-887 889-88f 897 8a0-8c9 8d4-8df 8e3-8e9 8f0-93b 93d-94c 94e-950 955-963 966-96f
971-983 985-98c 98f-990 993-9a8 9aa-9b0 9b2 9b6-9b9 9bd-9c4 9c7-9c8 9cb-9cc 9ce 9d7 9dc-9dd
9df-9e3 9e6-9f1 9f4-9f9 9fc a01-a03 a05-a0a a0f-a10 a13-a28 a2a-a30 a32-a33 a35-a36 a38-a39
a3e-a42 a47-a48 a4b-a4c a51 a59-a5c a5e a66-a75 a81-a83 a85-a8d a8f-a91 a93-aa8 aaa-ab0
ab2-ab3 ab5-ab9 abd-ac5 ac7-ac9 acb-acc ad0 ae0-ae3 ae6-aef af9-afc b01-b03 b05-b0c b0f-b10
b13-b28 b2a-b30 b32-b33 b35-b39 b3d-b44 b47-b48 b4b-b4c b56-b57 b5c-b5d b5f-b63 b66-b6f
b71-b77 b82-b83 b85-b8a b8e-b90 b92-b95 b99-b9a b9c b9e-b9f ba3-ba4 ba8-baa bae-bb9 bbe-bc2
bc6-bc8 bca-bcc bd0 bd7 be6-bf2 c00-c0c c0e-c10 c12-c28 c2a-c39 c3d-c44 c46-c48 c4a-c4c
c55-c56 c58-c5a c5c-c5d c60-c63 c66-c6f c78-c7e c80-c83 c85-c8c c8e-c90 c92-ca8 caa-cb3
cb5-cb9 cbd-cc4 cc6-cc8 cca-ccc cd5-cd6 cdc-cde ce0-ce3 ce6-cef cf1-cf3 d00-d0c d0e-d10
d12-d3a d3d-d44 d46-d48 d4a-d4c d4e d54-d63 d66-d78 d7a-d7f d81-d83 d85-d96 d9a-db1 db3-dbb
dbd dc0-dc6 dcf-dd4 dd6 dd8-ddf de6-def df2-df3 e01-e3a e40-e46 e4d e50-e59 e81-e82 e84
e86-e8a e8c-ea3 ea5 ea7-eb9 ebb-ebd ec0-ec4 ec6 ecd ed0-ed9 edc-edf f00 f20-f33 f40-f47
f49-f6c f71-f83 f88-f97 f99-fbc 1000-1036 1038 103b-1049 1050-109d 10a0-10c5 10c7 10cd
10d0-10fa 10fc-1248 124a-124d 1250-1256 1258 125a-125d 1260-1288 128a-128d 1290-12b0
12b2-12b5 12b8-12be 12c0 12c2-12c5 12c8-12d6 12d8-1310 1312-1315 1318-135a 1369-137c
1380-138f 13a0-13f5 13f8-13fd 1401-166c 166f-167f 1681-169a 16a0-16ea 16ee-16f8 1700-1713
171f-1733 1740-1753 1760-176c 176e-1770 1772-1773 1780-17b3 17b6-17c8 17d7 17dc 17e0-17e9
17f0-17f9 1810-1819 1820-1878 1880-18aa 18b0-18f5 1900-191e 1920-192b 1930-1938 1946-196d
1970-1974 1980-19ab 19b0-19c9 19d0-19da 1a00-1a1b 1a20-1a5e 1a61-1a74 1a80-1a89 1a90-1a99
1aa7 1abf-1ac0 1acc-1ace 1b00-1b33 1b35-1b43 1b45-1b4c 1b50-1b59 1b80-1ba9 1bac-1be5
1be7-1bf1 1c00-1c36 1c40-1c49 1c4d-1c7d 1c80-1c8a 1c90-1cba 1cbd-1cbf 1ce9-1cec 1cee-1cf3
1cf5-1cf6 1cfa 1d00-1dbf 1dd3-1df4 1e00-1f15 1f18-1f1d 1f20-1f45 1f48-1f4d 1f50-1f57 1f59
1f5b 1f5d 1f5f-1f7d 1f80-1fb4 1fb6-1fbc 1fbe 1fc2-1fc4 1fc6-1fcc 1fd0-1fd3 1fd6-1fdb
1fe0-1fec 1ff2-1ff4 1ff6-1ffc 2070-2071 2074-2079 207f-2089 2090-209c 2102 2107 210a-2113
2115 2119-211d 2124 2126 2128 212a-212d 212f-2139 213c-213f 2145-2149 214e 2150-2189
2460-249b 24b6-24ff 2776-2793 2c00-2ce4 2ceb-2cee 2cf2-2cf3 2cfd 2d00-2d25 2d27 2d2d
2d30-2d67 2d6f 2d80-2d96 2da0-2da6 2da8-2dae 2db0-2db6 2db8-2dbe 2dc0-2dc6 2dc8-2dce
2dd0-2dd6 2dd8-2dde 2de0-2dff 2e2f 3005-3007 3021-3029 3031-3035 3038-303c 3041-3096
309d-309f 30a1-30fa 30fc-30ff 3105-312f 3131-318e 3192-3195 31a0-31bf 31f0-31ff 3220-3229
3248-324f 3251-325f 3280-3289 32b1-32bf 3400-4dbf 4e00-a48c a4d0-a4fd a500-a60c a610-a62b
a640-a66e a674-a67b a67f-a6ef a717-a71f a722-a788 a78b-a7dc a7f1-a805 a807-a827 a830-a835
a840-a873 a880-a8c3 a8c5 a8d0-a8d9 a8f2-a8f7 a8fb a8fd-a92a a930-a952 a960-a97c a980-a9b2
a9b4-a9bf a9cf-a9d9 a9e0-a9fe aa00-aa36 aa40-aa4d aa50-aa59 aa60-aa76 aa7a-aabe aac0 aac2
aadb-aadd aae0-aaef aaf2-aaf5 ab01-ab06 ab09-ab0e ab11-ab16 ab20-ab26 ab28-ab2e ab30-ab5a
ab5c-ab69 ab70-abea abf0-abf9 ac00-d7a3 d7b0-d7c6 d7cb-d7fb f900-fa6d fa70-fad9 fb00-fb06
fb13-fb17 fb1d-fb28 fb2a-fb36 fb38-fb3c fb3e fb40-fb41 fb43-fb44 fb46-fbb1 fbd3-fd3d
fd50-fd8f fd92-fdc7 fdf0-fdfb fe70-fe74 fe76-fefc ff10-ff19 ff21-ff3a ff41-ff5a ff66-ffbe
ffc2-ffc7 ffca-ffcf ffd2-ffd7 ffda-ffdc 10000-1000b 1000d-10026 10028-1003a 1003c-1003d
1003f-1004d 10050-1005d 10080-100fa 10107-10133 10140-10178 1018a-1018b 10280-1029c
102a0-102d0 102e1-102fb 10300-10323 1032d-1034a 10350-1037a 10380-1039d 103a0-103c3
103c8-103cf 103d1-103d5 10400-1049d 104a0-104a9 104b0-104d3 104d8-104fb 10500-10527
10530-10563 10570-1057a 1057c-1058a 1058c-10592 10594-10595 10597-105a1 105a3-105b1
105b3-105b9 105bb-105bc 105c0-105f3 10600-10736 10740-10755 10760-10767 10780-10785
10787-107b0 107b2-107ba 10800-10805 10808 1080a-10835 10837-10838 1083c 1083f-10855
10858-10876 10879-1089e 108a7-108af 108e0-108f2 108f4-108f5 108fb-1091b 10920-10939
10940-10959 10980-109b7 109bc-109cf 109d2-10a03 10a05-10a06 10a0c-10a13 10a15-10a17
10a19-10a35 10a40-10a48 10a60-10a7e 10a80-10a9f 10ac0-10ac7 10ac9-10ae4 10aeb-10aef
10b00-10b35 10b40-10b55 10b58-10b72 10b78-10b91 10ba9-10baf 10c00-10c48 10c80-10cb2
10cc0-10cf2 10cfa-10d27 10d30-10d39 10d40-10d65 10d69 10d6f-10d85 10e60-10e7e 10e80-10ea9
10eab-10eac 10eb0-10eb1 10ec2-10ec7 10efa-10efc 10f00-10f27 10f30-10f45 10f51-10f54
10f70-10f81 10fb0-10fcb 10fe0-10ff6 11000-11045 11052-1106f 11071-11075 11080-110b8 110c2
110d0-110e8 110f0-110f9 11100-11132 11136-1113f 11144-11147 11150-11172 11176 11180-111bf
111c1-111c4 111ce-111da 111dc 111e1-111f4 11200-11211 11213-11234 11237 1123e-11241
11280-11286 11288 1128a-1128d 1128f-1129d 1129f-112a8 112b0-112e8 112f0-112f9 11300-11303
11305-1130c 1130f-11310 11313-11328 1132a-11330 11332-11333 11335-11339 1133d-11344
11347-11348 1134b-1134c 11350 11357 1135d-11363 11380-11389 1138b 1138e 11390-113b5
113b7-113c0 113c2 113c5 113c7-113ca 113cc-113cd 113d1 113d3 11400-11441 11443-11445
11447-1144a 11450-11459 1145f-11461 11480-114c1 114c4-114c5 114c7 114d0-114d9 11580-115b5
115b8-115be 115d8-115dd 11600-1163e 11640 11644 11650-11659 11680-116b5 116b8 116c0-116c9
116d0-116e3 11700-1171a 1171d-1172a 11730-1173b 11740-11746 11800-11838 118a0-118f2
118ff-11906 11909 1190c-11913 11915-11916 11918-11935 11937-11938 1193b-1193c 1193f-11942
11950-11959 119a0-119a7 119aa-119d7 119da-119df 119e1 119e3-119e4 11a00-11a32 11a35-11a3e
11a50-11a97 11a9d 11ab0-11af8 11b60-11b67 11bc0-11be0 11bf0-11bf9 11c00-11c08 11c0a-11c36
11c38-11c3e 11c40 11c50-11c6c 11c72-11c8f 11c92-11ca7 11ca9-11cb6 11d00-11d06 11d08-11d09
11d0b-11d36 11d3a 11d3c-11d3d 11d3f-11d41 11d43 11d46-11d47 11d50-11d59 11d60-11d65
11d67-11d68 11d6a-11d8e 11d90-11d91 11d93-11d96 11d98 11da0-11da9 11db0-11ddb 11de0-11de9
11ee0-11ef6 11f00-11f10 11f12-11f3a 11f3e-11f40 11f50-11f59 11fb0 11fc0-11fd4 12000-12399
12400-1246e 12480-12543 12f90-12ff0 13000-1342f 13441-13446 13460-143fa 14400-14646
16100-1612e 16130-16139 16800-16a38 16a40-16a5e 16a60-16a69 16a70-16abe 16ac0-16ac9
16ad0-16aed 16b00-16b2f 16b40-16b43 16b50-16b59 16b5b-16b61 16b63-16b77 16b7d-16b8f
16d40-16d6c 16d70-16d79 16e40-16e96 16ea0-16eb8 16ebb-16ed3 16f00-16f4a 16f4f-16f87
16f8f-16f9f 16fe0-16fe1 16fe3 16ff0-16ff6 17000-18cd5 18cff-18d1e 18d80-18df2 1aff0-1aff3
1aff5-1affb 1affd-1affe 1b000-1b122 1b132 1b150-1b152 1b155 1b164-1b167 1b170-1b2fb
1bc00-1bc6a 1bc70-1bc7c 1bc80-1bc88 1bc90-1bc99 1bc9e 1ccf0-1ccf9 1d2c0-1d2d3 1d2e0-1d2f3
1d360-1d378 1d400-1d454 1d456-1d49c 1d49e-1d49f 1d4a2 1d4a5-1d4a6 1d4a9-1d4ac 1d4ae-1d4b9
1d4bb 1d4bd-1d4c3 1d4c5-1d505 1d507-1d50a 1d50d-1d514 1d516-1d51c 1d51e-1d539 1d53b-1d53e
1d540-1d544 1d546 1d54a-1d550 1d552-1d6a5 1d6a8-1d6c0 1d6c2-1d6da 1d6dc-1d6fa 1d6fc-1d714
1d716-1d734 1d736-1d74e 1d750-1d76e 1d770-1d788 1d78a-1d7a8 1d7aa-1d7c2 1d7c4-1d7cb
1d7ce-1d7ff 1df00-1df1e 1df25-1df2a 1e000-1e006 1e008-1e018 1e01b-1e021 1e023-1e024
1e026-1e02a 1e030-1e06d 1e08f 1e100-1e12c 1e137-1e13d 1e140-1e149 1e14e 1e290-1e2ad
1e2c0-1e2eb 1e2f0-1e2f9 1e4d0-1e4eb 1e4f0-1e4f9 1e5d0-1e5ed 1e5f0-1e5fa 1e6c0-1e6de
1e6e0-1e6f5 1e6fe-1e6ff 1e7e0-1e7e6 1e7e8-1e7eb 1e7ed-1e7ee 1e7f0-1e7fe 1e800-1e8c4
1e8c7-1e8cf 1e900-1e943 1e947 1e94b 1e950-1e959 1ec71-1ecab 1ecad-1ecaf 1ecb1-1ecb4
1ed01-1ed2d 1ed2f-1ed3d 1ee00-1ee03 1ee05-1ee1f 1ee21-1ee22 1ee24 1ee27 1ee29-1ee32
1ee34-1ee37 1ee39 1ee3b 1ee42 1ee47 1ee49 1ee4b 1ee4d-1ee4f 1ee51-1ee52 1ee54 1ee57 1ee59
1ee5b 1ee5d 1ee5f 1ee61-1ee62 1ee64 1ee67-1ee6a 1ee6c-1ee72 1ee74-1ee77 1ee79-1ee7c 1ee7e
1ee80-1ee89 1ee8b-1ee9b 1eea1-1eea3 1eea5-1eea9 1eeab-1eebb 1f100-1f10c 1f130-1f149
1f150-1f169 1f170-1f189 1fbf0-1fbf9 20000-2a6df 2a700-2b81d 2b820-2cead 2ceb0-2ebe0
2ebf0-2ee5d 2f800-2fa1d 30000-3134a 31350-33479"

/-- The ranges of letters and numbers. -/
def alphanumericRanges : Ranges :=
  Ranges.ofText alphanumericText

/-- The code points beyond ASCII with a one-character lower-case form: each entry
    holds the first and last code point of a run, its step and the signed
    distance to the lower-case form, in hexadecimal. -/
def lowerText : String :=
  "c0:d6:1:p20 d8:de:1:p20 100:12e:2:p1 132:136:2:p1 139:147:2:p1 14a:176:2:p1 178:178:1:m79
179:17d:2:p1 181:181:1:pd2 182:184:2:p1 186:186:1:pce 187:187:1:p1 189:18a:1:pcd
18b:18b:1:p1 18e:18e:1:p4f 18f:18f:1:pca 190:190:1:pcb 191:191:1:p1 193:193:1:pcd
194:194:1:pcf 196:196:1:pd3 197:197:1:pd1 198:198:1:p1 19c:19c:1:pd3 19d:19d:1:pd5
19f:19f:1:pd6 1a0:1a4:2:p1 1a6:1a6:1:pda 1a7:1a7:1:p1 1a9:1a9:1:pda 1ac:1ac:1:p1
1ae:1ae:1:pda 1af:1af:1:p1 1b1:1b2:1:pd9 1b3:1b5:2:p1 1b7:1b7:1:pdb 1b8:1b8:1:p1
1bc:1bc:1:p1 1c4:1c4:1:p2 1c5:1c5:1:p1 1c7:1c7:1:p2 1c8:1c8:1:p1 1ca:1ca:1:p2 1cb:1db:2:p1
1de:1ee:2:p1 1f1:1f1:1:p2 1f2:1f4:2:p1 1f6:1f6:1:m61 1f7:1f7:1:m38 1f8:21e:2:p1
220:220:1:m82 222:232:2:p1 23a:23a:1:p2a2b 23b:23b:1:p1 23d:23d:1:ma3 23e:23e:1:p2a28
241:241:1:p1 243:243:1:mc3 244:244:1:p45 245:245:1:p47 246:24e:2:p1 370:372:2:p1
376:376:1:p1 37f:37f:1:p74 386:386:1:p26 388:38a:1:p25 38c:38c:1:p40 38e:38f:1:p3f
391:3a1:1:p20 3a3:3ab:1:p20 3cf:3cf:1:p8 3d8:3ee:2:p1 3f4:3f4:1:m3c 3f7:3f7:1:p1
3f9:3f9:1:m7 3fa:3fa:1:p1 3fd:3ff:1:m82 400:40f:1:p50 410:42f:1:p20 460:480:2:p1
48a:4be:2:p1 4c0:4c0:1:pf 4c1:4cd:2:p1 4d0:52e:2:p1 531:556:1:p30 10a0:10c5:1:p1c60
10c7:10c7:1:p1c60 10cd:10cd:1:p1c60 13a0:13ef:1:p97d0 13f0:13f5:1:p8 1c89:1c89:1:p1
1c90:1cba:1:mbc0 1cbd:1cbf:1:mbc0 1e00:1e94:2:p1 1e9e:1e9e:1:m1dbf 1ea0:1efe:2:p1
1f08:1f0f:1:m8 1f18:1f1d:1:m8 1f28:1f2f:1:m8 1f38:1f3f:1:m8 1f48:1f4d:1:m8 1f59:1f5f:2:m8
1f68:1f6f:1:m8 1f88:1f8f:1:m8 1f98:1f9f:1:m8 1fa8:1faf:1:m8 1fb8:1fb9:1:m8 1fba:1fbb:1:m4a
1fbc:1fbc:1:m9 1fc8:1fcb:1:m56 1fcc:1fcc:1:m9 1fd8:1fd9:1:m8 1fda:1fdb:1:m64 1fe8:1fe9:1:m8
1fea:1feb:1:m70 1fec:1fec:1:m7 1ff8:1ff9:1:m80 1ffa:1ffb:1:m7e 1ffc:1ffc:1:m9
2126:2126:1:m1d5d 212a:212a:1:m20bf 212b:212b:1:m2046 2132:2132:1:p1c 2160:216f:1:p10
2183:2183:1:p1 24b6:24cf:1:p1a 2c00:2c2f:1:p30 2c60:2c60:1:p1 2c62:2c62:1:m29f7
2c63:2c63:1:mee6 2c64:2c64:1:m29e7 2c67:2c6b:2:p1 2c6d:2c6d:1:m2a1c 2c6e:2c6e:1:m29fd
2c6f:2c6f:1:m2a1f 2c70:2c70:1:m2a1e 2c72:2c72:1:p1 2c75:2c75:1:p1 2c7e:2c7f:1:m2a3f
2c80:2ce2:2:p1 2ceb:2ced:2:p1 2cf2:2cf2:1:p1 a640:a66c:2:p1 a680:a69a:2:p1 a722:a72e:2:p1
a732:a76e:2:p1 a779:a77b:2:p1 a77d:a77d:1:m8a04 a77e:a786:2:p1 a78b:a78b:1:p1
a78d:a78d:1:ma528 a790:a792:2:p1 a796:a7a8:2:p1 a7aa:a7aa:1:ma544 a7ab:a7ab:1:ma54f
a7ac:a7ac:1:ma54b a7ad:a7ad:1:ma541 a7ae:a7ae:1:ma544 a7b0:a7b0:1:ma512 a7b1:a7b1:1:ma52a
a7b2:a7b2:1:ma515 a7b3:a7b3:1:p3a0 a7b4:a7c2:2:p1 a7c4:a7c4:1:m30 a7c5:a7c5:1:ma543
a7c6:a7c6:1:m8a38 a7c7:a7c9:2:p1 a7cb:a7cb:1:ma567 a7cc:a7da:2:p1 a7dc:a7dc:1:ma641
a7f5:a7f5:1:p1 ff21:ff3a:1:p20 10400:10427:1:p28 104b0:104d3:1:p28 10570:1057a:1:p27
1057c:1058a:1:p27 1058c:10592:1:p27 10594:10595:1:p27 10c80:10cb2:1:p40 10d50:10d65:1:p20
118a0:118bf:1:p20 16e40:16e5f:1:p20 16ea0:16eb8:1:p1b 1e900:1e921:1:p22"

/-- A run of code points, every `step`-th of which has its lower-case form
    `distance` away, below or above. -/
structure LowerRun where
  first : Nat
  last : Nat
  step : Nat
  below : Bool
  distance : Nat
deriving Repr, Inhabited

/-- Reads one entry of `lowerText`. -/
def LowerRun.ofEntry (entry : String) : Option LowerRun :=
  match entry.splitOn ":" with
  | [a, b, s, d] =>
    match d.toList with
    | sign :: digits =>
      some ⟨hexValue a.toList, hexValue b.toList, hexValue s.toList, sign == 'm', hexValue digits⟩
    | [] => none
  | _ => none

/-- The runs of `lowerText`. -/
def lowerRuns : List LowerRun :=
  (entries lowerText).filterMap LowerRun.ofEntry

/-- The lower-case code point of a code point in this run. -/
def LowerRun.apply? (run : LowerRun) (n : Nat) : Option Nat :=
  if run.first ≤ n && n ≤ run.last && (n - run.first) % run.step == 0 then
    some (if run.below then n - run.distance else n + run.distance)
  else none

/-- Letters and digits of any script. -/
def isAlphanumeric (c : Char) : Bool :=
  if c.toNat < 0x80 then c.isAlphanum else alphanumericRanges.contains c.toNat

/-- The lower-case form of a character, the character itself if it has none. -/
def lower (c : Char) : List Char :=
  if c.toNat < 0x80 then [c.toLower]
  else if c.toNat == 0x130 then ['i', '\u0307']
  else
    match lowerRuns.findSome? fun run => run.apply? c.toNat with
    | some n => [Char.ofNat n]
    | none => [c]

end Rubric.Unicode
