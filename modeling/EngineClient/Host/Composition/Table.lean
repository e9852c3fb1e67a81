/-!
# Marks and the characters they make

The order of the marks behind a letter, and the characters that a letter and a mark make
together. All numbers are hexadecimal.
-/

namespace EngineClient
namespace Host

/-- Runs of marks: the first, the last, and their class. -/
def markClasses : String :=
  String.join [
    "300 314 e6;315 315 e8;316 319 dc;31a 31a e8;31b 31b d8;31c 320 dc;321 322 ca;323 326 dc;327 ",
    "328 ca;329 333 dc;334 338 1;339 33c dc;33d 344 e6;345 345 f0;346 346 e6;347 349 dc;34a 34c ",
    "e6;34d 34e dc;350 352 e6;353 356 dc;357 357 e6;358 358 e8;359 35a dc;35b 35b e6;35c 35c e9;",
    "35d 35e ea;35f 35f e9;360 361 ea;362 362 e9;363 36f e6;483 487 e6;591 591 dc;592 595 e6;596 ",
    "596 dc;597 599 e6;59a 59a de;59b 59b dc;59c 5a1 e6;5a2 5a7 dc;5a8 5a9 e6;5aa 5aa dc;5ab 5ac ",
    "e6;5ad 5ad de;5ae 5ae e4;5af 5af e6;5b0 5b0 a;5b1 5b1 b;5b2 5b2 c;5b3 5b3 d;5b4 5b4 e;5b5 ",
    "5b5 f;5b6 5b6 10;5b7 5b7 11;5b8 5b8 12;5b9 5ba 13;5bb 5bb 14;5bc 5bc 15;5bd 5bd 16;5bf 5bf ",
    "17;5c1 5c1 18;5c2 5c2 19;5c4 5c4 e6;5c5 5c5 dc;5c7 5c7 12;610 617 e6;618 618 1e;619 619 1f;",
    "61a 61a 20;64b 64b 1b;64c 64c 1c;64d 64d 1d;64e 64e 1e;64f 64f 1f;650 650 20;651 651 21;652 ",
    "652 22;653 654 e6;655 656 dc;657 65b e6;65c 65c dc;65d 65e e6;65f 65f dc;670 670 23;6d6 6dc ",
    "e6;6df 6e2 e6;6e3 6e3 dc;6e4 6e4 e6;6e7 6e8 e6;6ea 6ea dc;6eb 6ec e6;6ed 6ed dc;711 711 24;",
    "730 730 e6;731 731 dc;732 733 e6;734 734 dc;735 736 e6;737 739 dc;73a 73a e6;73b 73c dc;73d ",
    "73d e6;73e 73e dc;73f 741 e6;742 742 dc;743 743 e6;744 744 dc;745 745 e6;746 746 dc;747 747 ",
    "e6;748 748 dc;749 74a e6;7eb 7f1 e6;7f2 7f2 dc;7f3 7f3 e6;7fd 7fd dc;816 819 e6;81b 823 e6;",
    "825 827 e6;829 82d e6;859 85b dc;898 898 e6;899 89b dc;89c 89f e6;8ca 8ce e6;8cf 8d3 dc;8d4 ",
    "8e1 e6;8e3 8e3 dc;8e4 8e5 e6;8e6 8e6 dc;8e7 8e8 e6;8e9 8e9 dc;8ea 8ec e6;8ed 8ef dc;8f0 8f0 ",
    "1b;8f1 8f1 1c;8f2 8f2 1d;8f3 8f5 e6;8f6 8f6 dc;8f7 8f8 e6;8f9 8fa dc;8fb 8ff e6;93c 93c 7;",
    "94d 94d 9;951 951 e6;952 952 dc;953 954 e6;9bc 9bc 7;9cd 9cd 9;9fe 9fe e6;a3c a3c 7;a4d a4d ",
    "9;abc abc 7;acd acd 9;b3c b3c 7;b4d b4d 9;bcd bcd 9;c3c c3c 7;c4d c4d 9;c55 c55 54;c56 c56 ",
    "5b;cbc cbc 7;ccd ccd 9;d3b d3c 9;d4d d4d 9;dca dca 9;e38 e39 67;e3a e3a 9;e48 e4b 6b;eb8 ",
    "eb9 76;eba eba 9;ec8 ecb 7a;f18 f19 dc;f35 f35 dc;f37 f37 dc;f39 f39 d8;f71 f71 81;f72 f72 ",
    "82;f74 f74 84;f7a f7d 82;f80 f80 82;f82 f83 e6;f84 f84 9;f86 f87 e6;fc6 fc6 dc;1037 1037 7;",
    "1039 103a 9;108d 108d dc;135d 135f e6;1714 1715 9;1734 1734 9;17d2 17d2 9;17dd 17dd e6;18a9 ",
    "18a9 e4;1939 1939 de;193a 193a e6;193b 193b dc;1a17 1a17 e6;1a18 1a18 dc;1a60 1a60 9;1a75 ",
    "1a7c e6;1a7f 1a7f dc;1ab0 1ab4 e6;1ab5 1aba dc;1abb 1abc e6;1abd 1abd dc;1abf 1ac0 dc;1ac1 ",
    "1ac2 e6;1ac3 1ac4 dc;1ac5 1ac9 e6;1aca 1aca dc;1acb 1ace e6;1b34 1b34 7;1b44 1b44 9;1b6b ",
    "1b6b e6;1b6c 1b6c dc;1b6d 1b73 e6;1baa 1bab 9;1be6 1be6 7;1bf2 1bf3 9;1c37 1c37 7;1cd0 1cd2 ",
    "e6;1cd4 1cd4 1;1cd5 1cd9 dc;1cda 1cdb e6;1cdc 1cdf dc;1ce0 1ce0 e6;1ce2 1ce8 1;1ced 1ced dc;",
    "1cf4 1cf4 e6;1cf8 1cf9 e6;1dc0 1dc1 e6;1dc2 1dc2 dc;1dc3 1dc9 e6;1dca 1dca dc;1dcb 1dcc e6;",
    "1dcd 1dcd ea;1dce 1dce d6;1dcf 1dcf dc;1dd0 1dd0 ca;1dd1 1df5 e6;1df6 1df6 e8;1df7 1df8 e4;",
    "1df9 1df9 dc;1dfa 1dfa da;1dfb 1dfb e6;1dfc 1dfc e9;1dfd 1dfd dc;1dfe 1dfe e6;1dff 1dff dc;",
    "20d0 20d1 e6;20d2 20d3 1;20d4 20d7 e6;20d8 20da 1;20db 20dc e6;20e1 20e1 e6;20e5 20e6 1;",
    "20e7 20e7 e6;20e8 20e8 dc;20e9 20e9 e6;20ea 20eb 1;20ec 20ef dc;20f0 20f0 e6;2cef 2cf1 e6;",
    "2d7f 2d7f 9;2de0 2dff e6;302a 302a da;302b 302b e4;302c 302c e8;302d 302d de;302e 302f e0;",
    "3099 309a 8;a66f a66f e6;a674 a67d e6;a69e a69f e6;a6f0 a6f1 e6;a806 a806 9;a82c a82c 9;",
    "a8c4 a8c4 9;a8e0 a8f1 e6;a92b a92d dc;a953 a953 9;a9b3 a9b3 7;a9c0 a9c0 9;aab0 aab0 e6;aab2 ",
    "aab3 e6;aab4 aab4 dc;aab7 aab8 e6;aabe aabf e6;aac1 aac1 e6;aaf6 aaf6 9;abed abed 9;fb1e ",
    "fb1e 1a;fe20 fe26 e6;fe27 fe2d dc;fe2e fe2f e6;101fd 101fd dc;102e0 102e0 dc;10376 1037a e6;",
    "10a0d 10a0d dc;10a0f 10a0f e6;10a38 10a38 e6;10a39 10a39 1;10a3a 10a3a dc;10a3f 10a3f 9;",
    "10ae5 10ae5 e6;10ae6 10ae6 dc;10d24 10d27 e6;10eab 10eac e6;10f46 10f47 dc;10f48 10f4a e6;",
    "10f4b 10f4b dc;10f4c 10f4c e6;10f4d 10f50 dc;10f82 10f82 e6;10f83 10f83 dc;10f84 10f84 e6;",
    "10f85 10f85 dc;11046 11046 9;11070 11070 9;1107f 1107f 9;110b9 110b9 9;110ba 110ba 7;11100 ",
    "11102 e6;11133 11134 9;11173 11173 7;111c0 111c0 9;111ca 111ca 7;11235 11235 9;11236 11236 ",
    "7;112e9 112e9 7;112ea 112ea 9;1133b 1133c 7;1134d 1134d 9;11366 1136c e6;11370 11374 e6;",
    "11442 11442 9;11446 11446 7;1145e 1145e e6;114c2 114c2 9;114c3 114c3 7;115bf 115bf 9;115c0 ",
    "115c0 7;1163f 1163f 9;116b6 116b6 9;116b7 116b7 7;1172b 1172b 9;11839 11839 9;1183a 1183a 7;",
    "1193d 1193e 9;11943 11943 7;119e0 119e0 9;11a34 11a34 9;11a47 11a47 9;11a99 11a99 9;11c3f ",
    "11c3f 9;11d42 11d42 7;11d44 11d45 9;11d97 11d97 9;16af0 16af4 1;16b30 16b36 e6;16ff0 16ff1 ",
    "6;1bc9e 1bc9e 1;1d165 1d166 d8;1d167 1d169 1;1d16d 1d16d e2;1d16e 1d172 d8;1d17b 1d182 dc;",
    "1d185 1d189 e6;1d18a 1d18b dc;1d1aa 1d1ad e6;1d242 1d244 e6;1e000 1e006 e6;1e008 1e018 e6;",
    "1e01b 1e021 e6;1e023 1e024 e6;1e026 1e02a e6;1e130 1e136 e6;1e2ae 1e2ae e6;1e2ec 1e2ef e6;",
    "1e8d0 1e8d6 dc;1e944 1e949 e6;1e94a 1e94a 7"]

/-- Marks, each with the characters that it may follow and what the two make. -/
def markPairs : String :=
  String.join [
    "300=61 e0 65 e8 69 ec 6e 1f9 6f f2 75 f9 77 1e81 79 1ef3 e2 1ea7 ea 1ec1 f4 1ed3 fc 1dc 103 ",
    "1eb1 113 1e15 14d 1e51 1a1 1edd 1b0 1eeb 3b1 1f70 3b5 1f72 3b7 1f74 3b9 1f76 3bf 1f78 3c5 ",
    "1f7a 3c9 1f7c 3ca 1fd2 3cb 1fe2 435 450 438 45d 1f00 1f02 1f01 1f03 1f10 1f12 1f11 1f13 ",
    "1f20 1f22 1f21 1f23 1f30 1f32 1f31 1f33 1f40 1f42 1f41 1f43 1f50 1f52 1f51 1f53 1f60 1f62 ",
    "1f61 1f63;301=61 e1 63 107 65 e9 67 1f5 69 ed 6b 1e31 6c 13a 6d 1e3f 6e 144 6f f3 70 1e55 ",
    "72 155 73 15b 75 fa 77 1e83 79 fd 7a 17a e2 1ea5 e5 1fb e6 1fd e7 1e09 ea 1ebf ef 1e2f f4 ",
    "1ed1 f5 1e4d f8 1ff fc 1d8 103 1eaf 113 1e17 14d 1e53 169 1e79 1a1 1edb 1b0 1ee9 3b1 3ac ",
    "3b5 3ad 3b7 3ae 3b9 3af 3bf 3cc 3c5 3cd 3c9 3ce 3ca 390 3cb 3b0 433 453 43a 45c 1f00 1f04 ",
    "1f01 1f05 1f10 1f14 1f11 1f15 1f20 1f24 1f21 1f25 1f30 1f34 1f31 1f35 1f40 1f44 1f41 1f45 ",
    "1f50 1f54 1f51 1f55 1f60 1f64 1f61 1f65;302=61 e2 63 109 65 ea 67 11d 68 125 69 ee 6a 135 ",
    "6f f4 73 15d 75 fb 77 175 79 177 7a 1e91 1ea1 1ead 1eb9 1ec7 1ecd 1ed9;303=61 e3 65 1ebd 69 ",
    "129 6e f1 6f f5 75 169 76 1e7d 79 1ef9 e2 1eab ea 1ec5 f4 1ed7 103 1eb5 1a1 1ee1 1b0 1eef;",
    "304=61 101 65 113 67 1e21 69 12b 6f 14d 75 16b 79 233 e4 1df e6 1e3 f5 22d f6 22b fc 1d6 ",
    "1eb 1ed 227 1e1 22f 231 3b1 1fb1 3b9 1fd1 3c5 1fe1 438 4e3 443 4ef 1e37 1e39 1e5b 1e5d;",
    "306=61 103 65 115 67 11f 69 12d 6f 14f 75 16d 229 1e1d 3b1 1fb0 3b9 1fd0 3c5 1fe0 430 4d1 ",
    "435 4d7 436 4c2 438 439 443 45e 1ea1 1eb7;307=61 227 62 1e03 63 10b 64 1e0b 65 117 66 1e1f ",
    "67 121 68 1e23 6d 1e41 6e 1e45 6f 22f 70 1e57 72 1e59 73 1e61 74 1e6b 77 1e87 78 1e8b 79 ",
    "1e8f 7a 17c 15b 1e65 161 1e67 1e63 1e69;308=61 e4 65 eb 68 1e27 69 ef 6f f6 74 1e97 75 fc ",
    "77 1e85 78 1e8d 79 ff f5 1e4f 16b 1e7b 3b9 3ca 3c5 3cb 430 4d3 435 451 436 4dd 437 4df 438 ",
    "4e5 43e 4e7 443 4f1 447 4f5 44b 4f9 44d 4ed 456 457 4d9 4db 4e9 4eb;309=61 1ea3 65 1ebb 69 ",
    "1ec9 6f 1ecf 75 1ee7 79 1ef7 e2 1ea9 ea 1ec3 f4 1ed5 103 1eb3 1a1 1edf 1b0 1eed;30a=61 e5 ",
    "75 16f 77 1e98 79 1e99;30b=6f 151 75 171 443 4f3;30c=61 1ce 63 10d 64 10f 65 11b 67 1e7 68 ",
    "21f 69 1d0 6a 1f0 6b 1e9 6c 13e 6e 148 6f 1d2 72 159 73 161 74 165 75 1d4 7a 17e fc 1da 292 ",
    "1ef;30f=61 201 65 205 69 209 6f 20d 72 211 75 215 475 477;311=61 203 65 207 69 20b 6f 20f ",
    "72 213 75 217;313=3b1 1f00 3b5 1f10 3b7 1f20 3b9 1f30 3bf 1f40 3c1 1fe4 3c5 1f50 3c9 1f60;",
    "314=3b1 1f01 3b5 1f11 3b7 1f21 3b9 1f31 3bf 1f41 3c1 1fe5 3c5 1f51 3c9 1f61;31b=6f 1a1 75 ",
    "1b0;323=61 1ea1 62 1e05 64 1e0d 65 1eb9 68 1e25 69 1ecb 6b 1e33 6c 1e37 6d 1e43 6e 1e47 6f ",
    "1ecd 72 1e5b 73 1e63 74 1e6d 75 1ee5 76 1e7f 77 1e89 79 1ef5 7a 1e93 1a1 1ee3 1b0 1ef1;",
    "324=75 1e73;325=61 1e01;326=73 219 74 21b;327=63 e7 64 1e11 65 229 67 123 68 1e29 6b 137 6c ",
    "13c 6e 146 72 157 73 15f 74 163;328=61 105 65 119 69 12f 6f 1eb 75 173;32d=64 1e13 65 1e19 ",
    "6c 1e3d 6e 1e4b 74 1e71 75 1e77;32e=68 1e2b;330=65 1e1b 69 1e2d 75 1e75;331=62 1e07 64 1e0f ",
    "68 1e96 6b 1e35 6c 1e3b 6e 1e49 72 1e5f 74 1e6f 7a 1e95;338=3c 226e 3d 2260 3e 226f 2190 ",
    "219a 2192 219b 2194 21ae 21d0 21cd 21d2 21cf 21d4 21ce 2203 2204 2208 2209 220b 220c 2223 ",
    "2224 2225 2226 223c 2241 2243 2244 2245 2247 2248 2249 224d 226d 2261 2262 2264 2270 2265 ",
    "2271 2272 2274 2273 2275 2276 2278 2277 2279 227a 2280 227b 2281 227c 22e0 227d 22e1 2282 ",
    "2284 2283 2285 2286 2288 2287 2289 2291 22e2 2292 22e3 22a2 22ac 22a8 22ad 22a9 22ae 22ab ",
    "22af 22b2 22ea 22b3 22eb 22b4 22ec 22b5 22ed;342=3b1 1fb6 3b7 1fc6 3b9 1fd6 3c5 1fe6 3c9 ",
    "1ff6 3ca 1fd7 3cb 1fe7 1f00 1f06 1f01 1f07 1f20 1f26 1f21 1f27 1f30 1f36 1f31 1f37 1f50 ",
    "1f56 1f51 1f57 1f60 1f66 1f61 1f67;653=627 622;654=627 623 648 624 64a 626 6c1 6c2 6d2 6d3 ",
    "6d5 6c0;655=627 625;93c=928 929 930 931 933 934;9be=9c7 9cb;9d7=9c7 9cc;b3e=b47 b4b;b56=b47 ",
    "b48;b57=b47 b4c;bbe=bc6 bca bc7 bcb;bd7=b92 b94 bc6 bcc;c56=c46 c48;cc2=cc6 cca;cd5=cbf cc0 ",
    "cc6 cc7 cca ccb;cd6=cc6 cc8;d3e=d46 d4a d47 d4b;d57=d46 d4c;dca=dd9 dda ddc ddd;dcf=dd9 ddc;",
    "ddf=dd9 dde;102e=1025 1026;1b35=1b05 1b06 1b07 1b08 1b09 1b0a 1b0b 1b0c 1b0d 1b0e 1b11 1b12 ",
    "1b3a 1b3b 1b3c 1b3d 1b3e 1b40 1b3f 1b41 1b42 1b43;3099=3046 3094 304b 304c 304d 304e 304f ",
    "3050 3051 3052 3053 3054 3055 3056 3057 3058 3059 305a 305b 305c 305d 305e 305f 3060 3061 ",
    "3062 3064 3065 3066 3067 3068 3069 306f 3070 3072 3073 3075 3076 3078 3079 307b 307c 309d ",
    "309e 30a6 30f4 30ab 30ac 30ad 30ae 30af 30b0 30b1 30b2 30b3 30b4 30b5 30b6 30b7 30b8 30b9 ",
    "30ba 30bb 30bc 30bd 30be 30bf 30c0 30c1 30c2 30c4 30c5 30c6 30c7 30c8 30c9 30cf 30d0 30d2 ",
    "30d3 30d5 30d6 30d8 30d9 30db 30dc 30ef 30f7 30f0 30f8 30f1 30f9 30f2 30fa 30fd 30fe;",
    "309a=306f 3071 3072 3074 3075 3077 3078 307a 307b 307d 30cf 30d1 30d2 30d4 30d5 30d7 30d8 ",
    "30da 30db 30dd;110ba=11099 1109a 1109b 1109c 110a5 110ab;11127=11131 1112e 11132 1112f;",
    "1133e=11347 1134b;11357=11347 1134c;114b0=114b9 114bc;114ba=114b9 114bb;114bd=114b9 114be;",
    "115af=115b8 115ba 115b9 115bb;11930=11935 11938"]

end Host
end EngineClient
