/-!
# What characters of host names fold to

The characters that stand for others in a host name: capitals for small letters, forms of a
letter for the letter, letters with marks for the letter and its marks. All numbers are
hexadecimal.
-/

namespace EngineClient
namespace Host

/-- Runs of characters that fold to as many others in a row: the first, the last, the step
from one to the next, and what the first folds to. -/
def foldRuns : String :=
  String.join [
    "41 5a 1 61;246 24e 2 247;391 3a1 1 3b1;3a3 3a9 1 3c3;3d8 3ee 2 3d9;3fd 3ff 1 37b;404 406 1 ",
    "454;408 40b 1 458;410 418 1 430;41a 42f 1 43a;460 474 2 461;478 480 2 479;48a 4be 2 48b;4c3 ",
    "4cd 2 4c4;4fa 52e 2 4fb;531 556 1 561;10a0 10c5 1 2d00;13a0 13ef 1 ab70;13f0 13f5 1 13f8;",
    "1c90 1cba 1 10d0;1cbd 1cbf 1 10fd;1efa 1efe 2 1efb;2074 2079 1 34;2080 2089 1 30;2119 211b ",
    "1 70;2135 2138 1 5d0;2460 2468 1 31;24b6 24cf 1 61;24d0 24e9 1 61;2c00 2c2f 1 2c30;2c67 ",
    "2c6b 2 2c68;2c80 2ce2 2 2c81;3137 3139 1 1103;313a 313f 1 11b0;3141 3143 1 1106;3145 314e 1 ",
    "1109;314f 3163 1 1161;3178 317c 1 112b;3184 3186 1 1157;3263 3265 1 1105;3269 326d 1 110e;",
    "32e4 32e9 1 30ca;32ee 32f2 1 30de;32f5 32fa 1 30e8;32fb 32fe 1 30ef;a640 a66c 2 a641;a680 ",
    "a69a 2 a681;a722 a72e 2 a723;a732 a76e 2 a733;a77e a786 2 a77f;a796 a7a8 2 a797;a7b4 a7c2 2 ",
    "a7b5;fb24 fb26 1 5db;fe41 fe44 1 300c;ff01 ff20 1 21;ff21 ff3a 1 61;ff3b ff5e 1 5b;ff85 ",
    "ff8a 1 30ca;ff8f ff93 1 30de;ff96 ff9b 1 30e8;ffa7 ffa9 1 1103;ffaa ffaf 1 11b0;ffb1 ffb3 1 ",
    "1106;ffb5 ffbe 1 1109;ffc2 ffc7 1 1161;ffca ffcf 1 1167;ffd2 ffd7 1 116d;ffda ffdc 1 1173;",
    "ffe9 ffec 1 2190;10400 10427 1 10428;104b0 104d3 1 104d8;10570 1057a 1 10597;1057c 1058a 1 ",
    "105a3;1058c 10592 1 105b3;10c80 10cb2 1 10cc0;118a0 118bf 1 118c0;16e40 16e5f 1 16e60;1d400 ",
    "1d419 1 61;1d41a 1d433 1 61;1d434 1d44d 1 61;1d44e 1d454 1 61;1d456 1d467 1 69;1d468 1d481 ",
    "1 61;1d482 1d49b 1 61;1d4a9 1d4ac 1 6e;1d4ae 1d4b5 1 73;1d4b6 1d4b9 1 61;1d4bd 1d4c0 1 68;",
    "1d4c5 1d4cf 1 70;1d4d0 1d4e9 1 61;1d4ea 1d503 1 61;1d507 1d50a 1 64;1d50d 1d514 1 6a;1d516 ",
    "1d51c 1 73;1d51e 1d537 1 61;1d53b 1d53e 1 64;1d540 1d544 1 69;1d54a 1d550 1 73;1d552 1d56b ",
    "1 61;1d56c 1d585 1 61;1d586 1d59f 1 61;1d5a0 1d5b9 1 61;1d5ba 1d5d3 1 61;1d5d4 1d5ed 1 61;",
    "1d5ee 1d607 1 61;1d608 1d621 1 61;1d622 1d63b 1 61;1d63c 1d655 1 61;1d656 1d66f 1 61;1d670 ",
    "1d689 1 61;1d68a 1d6a3 1 61;1d6a8 1d6b8 1 3b1;1d6ba 1d6c0 1 3c3;1d6c2 1d6d2 1 3b1;1d6d4 ",
    "1d6da 1 3c3;1d6e2 1d6f2 1 3b1;1d6f4 1d6fa 1 3c3;1d6fc 1d70c 1 3b1;1d70e 1d714 1 3c3;1d71c ",
    "1d72c 1 3b1;1d72e 1d734 1 3c3;1d736 1d746 1 3b1;1d748 1d74e 1 3c3;1d756 1d766 1 3b1;1d768 ",
    "1d76e 1 3c3;1d770 1d780 1 3b1;1d782 1d788 1 3c3;1d790 1d7a0 1 3b1;1d7a2 1d7a8 1 3c3;1d7aa ",
    "1d7ba 1 3b1;1d7bc 1d7c2 1 3c3;1d7ce 1d7d7 1 30;1d7d8 1d7e1 1 30;1d7e2 1d7eb 1 30;1d7ec ",
    "1d7f5 1 30;1d7f6 1d7ff 1 30;1e900 1e921 1 1e922"]

/-- What characters fold to, and those that fold to it; some fold to nothing. -/
def foldGroups : String :=
  String.join [
    "20=a0 2000 2001 2002 2003 2004 2005 2006 2007 2008 2009 200a 202f 205f 3000;20 308=a8;61=aa ",
    "1d49c 1d504 1d538;=ad 34f 1806 180b 180c 180d 200b 200c 200d 2060 fe00 fe01 fe02 fe03 fe04 ",
    "fe05 fe06 fe07 fe08 fe09 fe0a fe0b fe0c fe0d fe0e fe0f feff;20 304=af ffe3;32=b2;33=b3;20 ",
    "301=b4 384 1ffd;3bc=b5;20 327=b8;31=b9;6f=ba 2134 1d546;31 2044 34=bc;31 2044 32=bd;33 2044 ",
    "34=be;61 300=c0 e0;61 301=c1 e1;61 302=c2 e2;61 303=c3 e3;61 308=c4 e4;61 30a=c5 e5 212b;",
    "e6=c6;63 327=c7 e7;65 300=c8 e8;65 301=c9 e9;65 302=ca ea;65 308=cb eb;69 300=cc ec;69 ",
    "301=cd ed;69 302=ce ee;69 308=cf ef;f0=d0;6e 303=d1 f1;6f 300=d2 f2;6f 301=d3 f3;6f 302=d4 ",
    "f4;6f 303=d5 f5;6f 308=d6 f6;f8=d8;75 300=d9 f9;75 301=da fa;75 302=db fb;75 308=dc fc;79 ",
    "301=dd fd;fe=de;73 73=df 1e9e;79 308=ff 178;61 304=100 101;61 306=102 103;61 328=104 105;63 ",
    "301=106 107;63 302=108 109;63 307=10a 10b;63 30c=10c 10d;64 30c=10e 10f;111=110;65 304=112 ",
    "113;65 306=114 115;65 307=116 117;65 328=118 119;65 30c=11a 11b;67 302=11c 11d;67 306=11e ",
    "11f;67 307=120 121;67 327=122 123;68 302=124 125;127=126 210f;69 303=128 129;69 304=12a 12b;",
    "69 306=12c 12d;69 328=12e 12f;69 307=130;69 6a=132 133;6a 302=134 135;6b 327=136 137;6c ",
    "301=139 13a;6c 327=13b 13c;6c 30c=13d 13e;6c b7=13f 140;142=141;6e 301=143 144;6e 327=145 ",
    "146;6e 30c=147 148;2bc 6e=149;14b=14a;6f 304=14c 14d;6f 306=14e 14f;6f 30b=150 151;153=152;",
    "72 301=154 155;72 327=156 157;72 30c=158 159;73 301=15a 15b;73 302=15c 15d;73 327=15e 15f;",
    "73 30c=160 161;74 327=162 163;74 30c=164 165;167=166;75 303=168 169;75 304=16a 16b;75 ",
    "306=16c 16d;75 30a=16e 16f;75 30b=170 171;75 328=172 173;77 302=174 175;79 302=176 177;7a ",
    "301=179 17a;7a 307=17b 17c;7a 30c=17d 17e;73=17f 2e2;253=181;183=182;185=184;254=186;",
    "188=187;256=189;257=18a;18c=18b;1dd=18e;259=18f;25b=190 2107;192=191;260=193;263=194 2e0;",
    "269=196;268=197;199=198;26f=19c;272=19d;275=19f;6f 31b=1a0 1a1;1a3=1a2;1a5=1a4;280=1a6;",
    "1a8=1a7;283=1a9;1ad=1ac;288=1ae;75 31b=1af 1b0;28a=1b1;28b=1b2;1b4=1b3;1b6=1b5;292=1b7;",
    "1b9=1b8;1bd=1bc;64 7a 30c=1c4 1c5 1c6;6c 6a=1c7 1c8 1c9;6e 6a=1ca 1cb 1cc;61 30c=1cd 1ce;69 ",
    "30c=1cf 1d0;6f 30c=1d1 1d2;75 30c=1d3 1d4;75 308 304=1d5 1d6;75 308 301=1d7 1d8;75 308 ",
    "30c=1d9 1da;75 308 300=1db 1dc;61 308 304=1de 1df;61 307 304=1e0 1e1;e6 304=1e2 1e3;1e5=1e4;",
    "67 30c=1e6 1e7;6b 30c=1e8 1e9;6f 328=1ea 1eb;6f 328 304=1ec 1ed;292 30c=1ee 1ef;6a 30c=1f0;",
    "64 7a=1f1 1f2 1f3;67 301=1f4 1f5;195=1f6;1bf=1f7;6e 300=1f8 1f9;61 30a 301=1fa 1fb;e6 ",
    "301=1fc 1fd;f8 301=1fe 1ff;61 30f=200 201;61 311=202 203;65 30f=204 205;65 311=206 207;69 ",
    "30f=208 209;69 311=20a 20b;6f 30f=20c 20d;6f 311=20e 20f;72 30f=210 211;72 311=212 213;75 ",
    "30f=214 215;75 311=216 217;73 326=218 219;74 326=21a 21b;21d=21c;68 30c=21e 21f;19e=220;",
    "223=222;225=224;61 307=226 227;65 327=228 229;6f 308 304=22a 22b;6f 303 304=22c 22d;6f ",
    "307=22e 22f;6f 307 304=230 231;79 304=232 233;2c65=23a;23c=23b;19a=23d;2c66=23e;242=241;",
    "180=243;289=244;28c=245;68=2b0 210b 210c 210d 210e;266=2b1 a7aa;6a=2b2 2149 1d4a5;72=2b3 ",
    "211c 211d;279=2b4;27b=2b5;281=2b6;77=2b7;79=2b8;20 306=2d8;20 307=2d9;20 30a=2da;20 328=2db;",
    "20 303=2dc;20 30b=2dd;6c=2e1 2112 2113 216c 217c;78=2e3 2169 2179;295=2e4;300=340;301=341;",
    "313=343;308 301=344;3b9=345 1fbe;371=370;373=372;2b9=374;377=376;20 3b9=37a;3b=37e fe54;",
    "3f3=37f;20 308 301=385 1fee;3b1 301=386 3ac 1f71 1fbb;b7=387;3b5 301=388 3ad 1f73 1fc9;3b7 ",
    "301=389 3ae 1f75 1fcb;3b9 301=38a 3af 1f77 1fdb;3bf 301=38c 3cc 1f79 1ff9;3c5 301=38e 3cd ",
    "3d3 1f7b 1feb;3c9 301=38f 3ce 1f7d 1ffb;3b9 308 301=390 1fd3;3b9 308=3aa 3ca;3c5 308=3ab ",
    "3cb 3d4;3c5 308 301=3b0 1fe3;3c3=3c2 3f2 3f9 1d6d3 1d70d 1d747 1d781 1d7bb;3d7=3cf;3b2=3d0;",
    "3b8=3d1 3f4 1d6b9 1d6dd 1d6f3 1d717 1d72d 1d751 1d767 1d78b 1d7a1 1d7c5;3c5=3d2;3c6=3d5 ",
    "1d6df 1d719 1d753 1d78d 1d7c7;3c0=3d6 213f 1d6e1 1d71b 1d755 1d78f 1d7c9;3ba=3f0 1d6de ",
    "1d718 1d752 1d78c 1d7c6;3c1=3f1 1d6e0 1d71a 1d754 1d78e 1d7c8;3b5=3f5 1d6dc 1d716 1d750 ",
    "1d78a 1d7c4;3f8=3f7;3fb=3fa;435 300=400 450;435 308=401 451;452=402;433 301=403 453;456 ",
    "308=407 457;43a 301=40c 45c;438 300=40d 45d;443 306=40e 45e;45f=40f;438 306=419 439;475 ",
    "30f=476 477;4cf=4c0;436 306=4c1 4c2;430 306=4d0 4d1;430 308=4d2 4d3;4d5=4d4;435 306=4d6 4d7;",
    "4d9=4d8;4d9 308=4da 4db;436 308=4dc 4dd;437 308=4de 4df;4e1=4e0;438 304=4e2 4e3;438 308=4e4 ",
    "4e5;43e 308=4e6 4e7;4e9=4e8;4e9 308=4ea 4eb;44d 308=4ec 4ed;443 304=4ee 4ef;443 308=4f0 4f1;",
    "443 30b=4f2 4f3;447 308=4f4 4f5;4f7=4f6;44b 308=4f8 4f9;565 582=587;627 653=622 fe81 fe82;",
    "627 654=623 fe83 fe84;648 654=624 fe85 fe86;627 655=625 fe87 fe88;64a 654=626 fe89 fe8a ",
    "fe8b fe8c;627 674=675;648 674=676;6c7 674=677 fbdd;64a 674=678;6d5 654=6c0 fba4 fba5;6c1 ",
    "654=6c2;6d2 654=6d3 fbb0 fbb1;928 93c=929;930 93c=931;933 93c=934;915 93c=958;916 93c=959;",
    "917 93c=95a;91c 93c=95b;921 93c=95c;922 93c=95d;92b 93c=95e;92f 93c=95f;9c7 9be=9cb;9c7 ",
    "9d7=9cc;9a1 9bc=9dc;9a2 9bc=9dd;9af 9bc=9df;a32 a3c=a33;a38 a3c=a36;a16 a3c=a59;a17 a3c=a5a;",
    "a1c a3c=a5b;a2b a3c=a5e;b47 b56=b48;b47 b3e=b4b;b47 b57=b4c;b21 b3c=b5c;b22 b3c=b5d;b92 ",
    "bd7=b94;bc6 bbe=bca;bc7 bbe=bcb;bc6 bd7=bcc;c46 c56=c48;cbf cd5=cc0;cc6 cd5=cc7;cc6 cd6=cc8;",
    "cc6 cc2=cca;cc6 cc2 cd5=ccb;d46 d3e=d4a;d47 d3e=d4b;d46 d57=d4c;dd9 dca=dda;dd9 dcf=ddc;dd9 ",
    "dcf dca=ddd;dd9 ddf=dde;e4d e32=e33;ecd eb2=eb3;eab e99=edc;eab ea1=edd;f0b=f0c;f42 fb7=f43;",
    "f4c fb7=f4d;f51 fb7=f52;f56 fb7=f57;f5b fb7=f5c;f40 fb5=f69;f71 f72=f73;f71 f74=f75;fb2 ",
    "f80=f76;fb2 f71 f80=f77;fb3 f80=f78;fb3 f71 f80=f79;f71 f80=f81;f92 fb7=f93;f9c fb7=f9d;fa1 ",
    "fb7=fa2;fa6 fb7=fa7;fab fb7=fac;f90 fb5=fb9;1025 102e=1026;2d27=10c7;2d2d=10cd;61 325=1e00 ",
    "1e01;62 307=1e02 1e03;62 323=1e04 1e05;62 331=1e06 1e07;63 327 301=1e08 1e09;64 307=1e0a ",
    "1e0b;64 323=1e0c 1e0d;64 331=1e0e 1e0f;64 327=1e10 1e11;64 32d=1e12 1e13;65 304 300=1e14 ",
    "1e15;65 304 301=1e16 1e17;65 32d=1e18 1e19;65 330=1e1a 1e1b;65 327 306=1e1c 1e1d;66 ",
    "307=1e1e 1e1f;67 304=1e20 1e21;68 307=1e22 1e23;68 323=1e24 1e25;68 308=1e26 1e27;68 ",
    "327=1e28 1e29;68 32e=1e2a 1e2b;69 330=1e2c 1e2d;69 308 301=1e2e 1e2f;6b 301=1e30 1e31;6b ",
    "323=1e32 1e33;6b 331=1e34 1e35;6c 323=1e36 1e37;6c 323 304=1e38 1e39;6c 331=1e3a 1e3b;6c ",
    "32d=1e3c 1e3d;6d 301=1e3e 1e3f;6d 307=1e40 1e41;6d 323=1e42 1e43;6e 307=1e44 1e45;6e ",
    "323=1e46 1e47;6e 331=1e48 1e49;6e 32d=1e4a 1e4b;6f 303 301=1e4c 1e4d;6f 303 308=1e4e 1e4f;",
    "6f 304 300=1e50 1e51;6f 304 301=1e52 1e53;70 301=1e54 1e55;70 307=1e56 1e57;72 307=1e58 ",
    "1e59;72 323=1e5a 1e5b;72 323 304=1e5c 1e5d;72 331=1e5e 1e5f;73 307=1e60 1e61 1e9b;73 ",
    "323=1e62 1e63;73 301 307=1e64 1e65;73 30c 307=1e66 1e67;73 323 307=1e68 1e69;74 307=1e6a ",
    "1e6b;74 323=1e6c 1e6d;74 331=1e6e 1e6f;74 32d=1e70 1e71;75 324=1e72 1e73;75 330=1e74 1e75;",
    "75 32d=1e76 1e77;75 303 301=1e78 1e79;75 304 308=1e7a 1e7b;76 303=1e7c 1e7d;76 323=1e7e ",
    "1e7f;77 300=1e80 1e81;77 301=1e82 1e83;77 308=1e84 1e85;77 307=1e86 1e87;77 323=1e88 1e89;",
    "78 307=1e8a 1e8b;78 308=1e8c 1e8d;79 307=1e8e 1e8f;7a 302=1e90 1e91;7a 323=1e92 1e93;7a ",
    "331=1e94 1e95;68 331=1e96;74 308=1e97;77 30a=1e98;79 30a=1e99;61 2be=1e9a;61 323=1ea0 1ea1;",
    "61 309=1ea2 1ea3;61 302 301=1ea4 1ea5;61 302 300=1ea6 1ea7;61 302 309=1ea8 1ea9;61 302 ",
    "303=1eaa 1eab;61 323 302=1eac 1ead;61 306 301=1eae 1eaf;61 306 300=1eb0 1eb1;61 306 ",
    "309=1eb2 1eb3;61 306 303=1eb4 1eb5;61 323 306=1eb6 1eb7;65 323=1eb8 1eb9;65 309=1eba 1ebb;",
    "65 303=1ebc 1ebd;65 302 301=1ebe 1ebf;65 302 300=1ec0 1ec1;65 302 309=1ec2 1ec3;65 302 ",
    "303=1ec4 1ec5;65 323 302=1ec6 1ec7;69 309=1ec8 1ec9;69 323=1eca 1ecb;6f 323=1ecc 1ecd;6f ",
    "309=1ece 1ecf;6f 302 301=1ed0 1ed1;6f 302 300=1ed2 1ed3;6f 302 309=1ed4 1ed5;6f 302 ",
    "303=1ed6 1ed7;6f 323 302=1ed8 1ed9;6f 31b 301=1eda 1edb;6f 31b 300=1edc 1edd;6f 31b ",
    "309=1ede 1edf;6f 31b 303=1ee0 1ee1;6f 31b 323=1ee2 1ee3;75 323=1ee4 1ee5;75 309=1ee6 1ee7;",
    "75 31b 301=1ee8 1ee9;75 31b 300=1eea 1eeb;75 31b 309=1eec 1eed;75 31b 303=1eee 1eef;75 31b ",
    "323=1ef0 1ef1;79 300=1ef2 1ef3;79 323=1ef4 1ef5;79 309=1ef6 1ef7;79 303=1ef8 1ef9;3b1 ",
    "313=1f00 1f08;3b1 314=1f01 1f09;3b1 313 300=1f02 1f0a;3b1 314 300=1f03 1f0b;3b1 313 ",
    "301=1f04 1f0c;3b1 314 301=1f05 1f0d;3b1 313 342=1f06 1f0e;3b1 314 342=1f07 1f0f;3b5 ",
    "313=1f10 1f18;3b5 314=1f11 1f19;3b5 313 300=1f12 1f1a;3b5 314 300=1f13 1f1b;3b5 313 ",
    "301=1f14 1f1c;3b5 314 301=1f15 1f1d;3b7 313=1f20 1f28;3b7 314=1f21 1f29;3b7 313 300=1f22 ",
    "1f2a;3b7 314 300=1f23 1f2b;3b7 313 301=1f24 1f2c;3b7 314 301=1f25 1f2d;3b7 313 342=1f26 ",
    "1f2e;3b7 314 342=1f27 1f2f;3b9 313=1f30 1f38;3b9 314=1f31 1f39;3b9 313 300=1f32 1f3a;3b9 ",
    "314 300=1f33 1f3b;3b9 313 301=1f34 1f3c;3b9 314 301=1f35 1f3d;3b9 313 342=1f36 1f3e;3b9 314 ",
    "342=1f37 1f3f;3bf 313=1f40 1f48;3bf 314=1f41 1f49;3bf 313 300=1f42 1f4a;3bf 314 300=1f43 ",
    "1f4b;3bf 313 301=1f44 1f4c;3bf 314 301=1f45 1f4d;3c5 313=1f50;3c5 314=1f51 1f59;3c5 313 ",
    "300=1f52;3c5 314 300=1f53 1f5b;3c5 313 301=1f54;3c5 314 301=1f55 1f5d;3c5 313 342=1f56;3c5 ",
    "314 342=1f57 1f5f;3c9 313=1f60 1f68;3c9 314=1f61 1f69;3c9 313 300=1f62 1f6a;3c9 314 ",
    "300=1f63 1f6b;3c9 313 301=1f64 1f6c;3c9 314 301=1f65 1f6d;3c9 313 342=1f66 1f6e;3c9 314 ",
    "342=1f67 1f6f;3b1 300=1f70 1fba;3b5 300=1f72 1fc8;3b7 300=1f74 1fca;3b9 300=1f76 1fda;3bf ",
    "300=1f78 1ff8;3c5 300=1f7a 1fea;3c9 300=1f7c 1ffa;3b1 313 3b9=1f80 1f88;3b1 314 3b9=1f81 ",
    "1f89;3b1 313 300 3b9=1f82 1f8a;3b1 314 300 3b9=1f83 1f8b;3b1 313 301 3b9=1f84 1f8c;3b1 314 ",
    "301 3b9=1f85 1f8d;3b1 313 342 3b9=1f86 1f8e;3b1 314 342 3b9=1f87 1f8f;3b7 313 3b9=1f90 1f98;",
    "3b7 314 3b9=1f91 1f99;3b7 313 300 3b9=1f92 1f9a;3b7 314 300 3b9=1f93 1f9b;3b7 313 301 ",
    "3b9=1f94 1f9c;3b7 314 301 3b9=1f95 1f9d;3b7 313 342 3b9=1f96 1f9e;3b7 314 342 3b9=1f97 1f9f;",
    "3c9 313 3b9=1fa0 1fa8;3c9 314 3b9=1fa1 1fa9;3c9 313 300 3b9=1fa2 1faa;3c9 314 300 3b9=1fa3 ",
    "1fab;3c9 313 301 3b9=1fa4 1fac;3c9 314 301 3b9=1fa5 1fad;3c9 313 342 3b9=1fa6 1fae;3c9 314 ",
    "342 3b9=1fa7 1faf;3b1 306=1fb0 1fb8;3b1 304=1fb1 1fb9;3b1 300 3b9=1fb2;3b1 3b9=1fb3 1fbc;",
    "3b1 301 3b9=1fb4;3b1 342=1fb6;3b1 342 3b9=1fb7;20 313=1fbd 1fbf;20 342=1fc0;20 308 342=1fc1;",
    "3b7 300 3b9=1fc2;3b7 3b9=1fc3 1fcc;3b7 301 3b9=1fc4;3b7 342=1fc6;3b7 342 3b9=1fc7;20 313 ",
    "300=1fcd;20 313 301=1fce;20 313 342=1fcf;3b9 306=1fd0 1fd8;3b9 304=1fd1 1fd9;3b9 308 ",
    "300=1fd2;3b9 342=1fd6;3b9 308 342=1fd7;20 314 300=1fdd;20 314 301=1fde;20 314 342=1fdf;3c5 ",
    "306=1fe0 1fe8;3c5 304=1fe1 1fe9;3c5 308 300=1fe2;3c1 313=1fe4;3c1 314=1fe5 1fec;3c5 ",
    "342=1fe6;3c5 308 342=1fe7;20 308 300=1fed;60=1fef;3c9 300 3b9=1ff2;3c9 3b9=1ff3 1ffc;3c9 ",
    "301 3b9=1ff4;3c9 342=1ff6;3c9 342 3b9=1ff7;20 314=1ffe;2010=2011;20 333=2017;2e=2024 fe52;",
    "2e 2e=2025 fe30;2e 2e 2e=2026;2032 2032=2033;2032 2032 2032=2034;2035 2035=2036;2035 2035 ",
    "2035=2037;21 21=203c;20 305=203e fe49 fe4a fe4b fe4c;3f 3f=2047;3f 21=2048;21 3f=2049;2032 ",
    "2032 2032 2032=2057;30=2070 24ea;69=2071 2110 2111 2139 2148 2160 2170;2b=207a 208a fb29 ",
    "fe62;2212=207b 208b;3d=207c 208c fe66;28=207d 208d fe35 fe59;29=207e 208e fe36 fe5a;6e=207f ",
    "2115 1d4c3;72 73=20a8;61 2f 63=2100;61 2f 73=2101;63=2102 212d 216d 217d 1d49e;b0 63=2103;",
    "63 2f 6f=2105;63 2f 75=2106;b0 66=2109;67=210a 1d4a2;6e 6f=2116;73 6d=2120;74 65 6c=2121;74 ",
    "6d=2122;7a=2124 2128;3c9=2126;6b=212a 1d4a6;62=212c 1d505 1d539;65=212f 2130 2147;66=2131 ",
    "1d4bb;214e=2132;6d=2133 216f 217f 1d4c2;3b3=213d 213e;2211=2140;64=2145 2146 216e 217e ",
    "1d49f;31 2044 33=2153;32 2044 33=2154;31 2044 35=2155;32 2044 35=2156;33 2044 35=2157;34 ",
    "2044 35=2158;31 2044 36=2159;35 2044 36=215a;31 2044 38=215b;33 2044 38=215c;35 2044 ",
    "38=215d;37 2044 38=215e;31 2044=215f;69 69=2161 2171;69 69 69=2162 2172;69 76=2163 2173;",
    "76=2164 2174;76 69=2165 2175;76 69 69=2166 2176;76 69 69 69=2167 2177;69 78=2168 2178;78 ",
    "69=216a 217a;78 69 69=216b 217b;2184=2183;2190 338=219a;2192 338=219b;2194 338=21ae;21d0 ",
    "338=21cd;21d4 338=21ce;21d2 338=21cf;2203 338=2204;2208 338=2209;220b 338=220c;2223 ",
    "338=2224;2225 338=2226;222b 222b=222c;222b 222b 222b=222d;222e 222e=222f;222e 222e ",
    "222e=2230;223c 338=2241;2243 338=2244;2245 338=2247;2248 338=2249;3d 338=2260;2261 338=2262;",
    "224d 338=226d;3c 338=226e;3e 338=226f;2264 338=2270;2265 338=2271;2272 338=2274;2273 ",
    "338=2275;2276 338=2278;2277 338=2279;227a 338=2280;227b 338=2281;2282 338=2284;2283 ",
    "338=2285;2286 338=2288;2287 338=2289;22a2 338=22ac;22a8 338=22ad;22a9 338=22ae;22ab ",
    "338=22af;227c 338=22e0;227d 338=22e1;2291 338=22e2;2292 338=22e3;22b2 338=22ea;22b3 ",
    "338=22eb;22b4 338=22ec;22b5 338=22ed;3008=2329 fe3f;3009=232a fe40;31 30=2469;31 31=246a;31 ",
    "32=246b;31 33=246c;31 34=246d;31 35=246e;31 36=246f;31 37=2470;31 38=2471;31 39=2472;32 ",
    "30=2473;28 31 29=2474;28 32 29=2475;28 33 29=2476;28 34 29=2477;28 35 29=2478;28 36 29=2479;",
    "28 37 29=247a;28 38 29=247b;28 39 29=247c;28 31 30 29=247d;28 31 31 29=247e;28 31 32 ",
    "29=247f;28 31 33 29=2480;28 31 34 29=2481;28 31 35 29=2482;28 31 36 29=2483;28 31 37 ",
    "29=2484;28 31 38 29=2485;28 31 39 29=2486;28 32 30 29=2487;31 2e=2488;32 2e=2489;33 2e=248a;",
    "34 2e=248b;35 2e=248c;36 2e=248d;37 2e=248e;38 2e=248f;39 2e=2490;31 30 2e=2491;31 31 ",
    "2e=2492;31 32 2e=2493;31 33 2e=2494;31 34 2e=2495;31 35 2e=2496;31 36 2e=2497;31 37 2e=2498;",
    "31 38 2e=2499;31 39 2e=249a;32 30 2e=249b;28 61 29=249c;28 62 29=249d;28 63 29=249e;28 64 ",
    "29=249f;28 65 29=24a0;28 66 29=24a1;28 67 29=24a2;28 68 29=24a3;28 69 29=24a4;28 6a 29=24a5;",
    "28 6b 29=24a6;28 6c 29=24a7;28 6d 29=24a8;28 6e 29=24a9;28 6f 29=24aa;28 70 29=24ab;28 71 ",
    "29=24ac;28 72 29=24ad;28 73 29=24ae;28 74 29=24af;28 75 29=24b0;28 76 29=24b1;28 77 29=24b2;",
    "28 78 29=24b3;28 79 29=24b4;28 7a 29=24b5;222b 222b 222b 222b=2a0c;3a 3a 3d=2a74;3d 3d=2a75;",
    "3d 3d 3d=2a76;2add 338=2adc;2c61=2c60;26b=2c62;1d7d=2c63;27d=2c64;251=2c6d;271=2c6e;",
    "250=2c6f;252=2c70;2c73=2c72;2c76=2c75;23f=2c7e;240=2c7f;2cec=2ceb;2cee=2ced;2cf3=2cf2;",
    "6bcd=2e9f;9f9f=2ef3;4e00=2f00 3192 3280;4e28=2f01;4e36=2f02;4e3f=2f03;4e59=2f04 319a;",
    "4e85=2f05;4e8c=2f06 3193 3281;4ea0=2f07;4eba=2f08 319f;513f=2f09;5165=2f0a;516b=2f0b 3287;",
    "5182=2f0c;5196=2f0d;51ab=2f0e;51e0=2f0f;51f5=2f10 2f81d;5200=2f11;529b=2f12 f98a;52f9=2f13;",
    "5315=2f14;531a=2f15;5338=2f16;5341=2f17 3038 3289;535c=2f18;5369=2f19;5382=2f1a;53b6=2f1b;",
    "53c8=2f1c;53e3=2f1d;56d7=2f1e;571f=2f1f 328f;58eb=2f20;5902=2f21;590a=2f22;5915=2f23;",
    "5927=2f24;5973=2f25 329b f981;5b50=2f26;5b80=2f27;5bf8=2f28;5c0f=2f29;5c22=2f2a 2f875;",
    "5c38=2f2b;5c6e=2f2c fa3c 2f878;5c71=2f2d;5ddb=2f2e;5de5=2f2f;5df1=2f30;5dfe=2f31;5e72=2f32;",
    "5e7a=2f33;5e7f=2f34;5ef4=2f35;5efe=2f36 2f890;5f0b=2f37;5f13=2f38;5f50=2f39;5f61=2f3a;",
    "5f73=2f3b;5fc3=2f3c;6208=2f3d;6236=2f3e;624b=2f3f;652f=2f40;6534=2f41;6587=2f42;6597=2f43;",
    "65a4=2f44;65b9=2f45;65e0=2f46;65e5=2f47 3290;66f0=2f48;6708=2f49 328a;6728=2f4a 328d;",
    "6b20=2f4b;6b62=2f4c;6b79=2f4d;6bb3=2f4e;6bcb=2f4f;6bd4=2f50;6bdb=2f51;6c0f=2f52;6c14=2f53;",
    "6c34=2f54 328c;706b=2f55 328b;722a=2f56;7236=2f57;723b=2f58;723f=2f59;7247=2f5a;7259=2f5b;",
    "725b=2f5c;72ac=2f5d;7384=2f5e;7389=2f5f;74dc=2f60;74e6=2f61;7518=2f62;751f=2f63;7528=2f64;",
    "7530=2f65;758b=2f66;7592=2f67;7676=2f68;767d=2f69;76ae=2f6a;76bf=2f6b;76ee=2f6c;77db=2f6d;",
    "77e2=2f6e;77f3=2f6f;793a=2f70;79b8=2f71;79be=2f72;7a74=2f73;7acb=2f74 f9f7;7af9=2f75;",
    "7c73=2f76;7cf8=2f77;7f36=2f78;7f51=2f79;7f8a=2f7a;7fbd=2f7b fa1e;8001=2f7c f934;800c=2f7d;",
    "8012=2f7e;8033=2f7f;807f=2f80;8089=2f81;81e3=2f82;81ea=2f83;81f3=2f84;81fc=2f85;820c=2f86;",
    "821b=2f87;821f=2f88;826e=2f89;8272=2f8a;8278=2f8b;864d=2f8c;866b=2f8d;8840=2f8e;884c=2f8f ",
    "fa08;8863=2f90 2f9c4;897e=2f91;898b=2f92 fa0a;89d2=2f93;8a00=2f94;8c37=2f95;8c46=2f96;",
    "8c55=2f97 2f9d2;8c78=2f98;8c9d=2f99;8d64=2f9a;8d70=2f9b;8db3=2f9c;8eab=2f9d;8eca=2f9e f902;",
    "8f9b=2f9f;8fb0=2fa0 f971;8fb5=2fa1;9091=2fa2;9149=2fa3;91c6=2fa4;91cc=2fa5 f9e9;91d1=2fa6 ",
    "328e f90a;9577=2fa7;9580=2fa8;961c=2fa9;96b6=2faa;96b9=2fab;96e8=2fac;9751=2fad;975e=2fae;",
    "9762=2faf;9769=2fb0;97cb=2fb1;97ed=2fb2;97f3=2fb3;9801=2fb4;98a8=2fb5;98db=2fb6;98df=2fb7;",
    "9996=2fb8;9999=2fb9;99ac=2fba;9aa8=2fbb;9ad8=2fbc;9adf=2fbd;9b25=2fbe;9b2f=2fbf;9b32=2fc0;",
    "9b3c=2fc1;9b5a=2fc2;9ce5=2fc3;9e75=2fc4;9e7f=2fc5 f940;9ea5=2fc6;9ebb=2fc7 2fa15;9ec3=2fc8;",
    "9ecd=2fc9;9ed1=2fca;9ef9=2fcb 2fa17;9efd=2fcc;9f0e=2fcd;9f13=2fce;9f20=2fcf;9f3b=2fd0 2fa1c;",
    "9f4a=2fd1;9f52=2fd2;9f8d=2fd3 f9c4;9f9c=2fd4 f907 f908;9fa0=2fd5;3012=3036;5344=3039;",
    "5345=303a;304b 3099=304c;304d 3099=304e;304f 3099=3050;3051 3099=3052;3053 3099=3054;3055 ",
    "3099=3056;3057 3099=3058;3059 3099=305a;305b 3099=305c;305d 3099=305e;305f 3099=3060;3061 ",
    "3099=3062;3064 3099=3065;3066 3099=3067;3068 3099=3069;306f 3099=3070;306f 309a=3071;3072 ",
    "3099=3073;3072 309a=3074;3075 3099=3076;3075 309a=3077;3078 3099=3079;3078 309a=307a;307b ",
    "3099=307c;307b 309a=307d;3046 3099=3094;20 3099=309b;20 309a=309c;309d 3099=309e;3088 ",
    "308a=309f;30ab 3099=30ac;30ad 3099=30ae;30af 3099=30b0;30b1 3099=30b2;30b3 3099=30b4;30b5 ",
    "3099=30b6;30b7 3099=30b8;30b9 3099=30ba;30bb 3099=30bc;30bd 3099=30be;30bf 3099=30c0;30c1 ",
    "3099=30c2;30c4 3099=30c5;30c6 3099=30c7;30c8 3099=30c9;30cf 3099=30d0;30cf 309a=30d1;30d2 ",
    "3099=30d3;30d2 309a=30d4;30d5 3099=30d6;30d5 309a=30d7;30d8 3099=30d9;30d8 309a=30da;30db ",
    "3099=30dc;30db 309a=30dd;30a6 3099=30f4;30ef 3099=30f7;30f0 3099=30f8;30f1 3099=30f9;30f2 ",
    "3099=30fa;30fd 3099=30fe;30b3 30c8=30ff;1100=3131 3260 ffa1;1101=3132 ffa2;11aa=3133 ffa3;",
    "1102=3134 3261 ffa4;11ac=3135 ffa5;11ad=3136 ffa6;111a=3140 ffb0;1121=3144 ffb4;1160=3164 ",
    "ffa0;1114=3165;1115=3166;11c7=3167;11c8=3168;11cc=3169;11ce=316a;11d3=316b;11d7=316c;",
    "11d9=316d;111c=316e;11dd=316f;11df=3170;111d=3171;111e=3172;1120=3173;1122=3174;1123=3175;",
    "1127=3176;1129=3177;1132=317d;1136=317e;1140=317f;1147=3180;114c=3181;11f1=3182;11f2=3183;",
    "1184=3187;1185=3188;1188=3189;1191=318a;1192=318b;1194=318c;119e=318d;11a1=318e;4e09=3194 ",
    "3282;56db=3195 3283;4e0a=3196 32a4;4e2d=3197 32a5;4e0b=3198 32a6;7532=3199;4e19=319b;",
    "4e01=319c;5929=319d;5730=319e;28 1100 29=3200;28 1102 29=3201;28 1103 29=3202;28 1105 ",
    "29=3203;28 1106 29=3204;28 1107 29=3205;28 1109 29=3206;28 110b 29=3207;28 110c 29=3208;28 ",
    "110e 29=3209;28 110f 29=320a;28 1110 29=320b;28 1111 29=320c;28 1112 29=320d;28 1100 1161 ",
    "29=320e;28 1102 1161 29=320f;28 1103 1161 29=3210;28 1105 1161 29=3211;28 1106 1161 29=3212;",
    "28 1107 1161 29=3213;28 1109 1161 29=3214;28 110b 1161 29=3215;28 110c 1161 29=3216;28 110e ",
    "1161 29=3217;28 110f 1161 29=3218;28 1110 1161 29=3219;28 1111 1161 29=321a;28 1112 1161 ",
    "29=321b;28 110c 116e 29=321c;28 4e00 29=3220;28 4e8c 29=3221;28 4e09 29=3222;28 56db ",
    "29=3223;28 4e94 29=3224;28 516d 29=3225;28 4e03 29=3226;28 516b 29=3227;28 4e5d 29=3228;28 ",
    "5341 29=3229;28 6708 29=322a;28 706b 29=322b;28 6c34 29=322c;28 6728 29=322d;28 91d1 ",
    "29=322e;28 571f 29=322f;28 65e5 29=3230;28 682a 29=3231;28 6709 29=3232;28 793e 29=3233;28 ",
    "540d 29=3234;28 7279 29=3235;28 8ca1 29=3236;28 795d 29=3237;28 52b4 29=3238;28 4ee3 ",
    "29=3239;28 547c 29=323a;28 5b66 29=323b;28 76e3 29=323c;28 4f01 29=323d;28 8cc7 29=323e;28 ",
    "5354 29=323f;28 796d 29=3240;28 4f11 29=3241;28 81ea 29=3242;28 81f3 29=3243;32 31=3251;32 ",
    "32=3252;32 33=3253;32 34=3254;32 35=3255;32 36=3256;32 37=3257;32 38=3258;32 39=3259;33 ",
    "30=325a;33 31=325b;33 32=325c;33 33=325d;33 34=325e;33 35=325f;1103=3262;1109=3266;",
    "110b=3267;110c=3268;1100 1161=326e;1102 1161=326f;1103 1161=3270;1105 1161=3271;1106 ",
    "1161=3272;1107 1161=3273;1109 1161=3274;110b 1161=3275;110c 1161=3276;110e 1161=3277;110f ",
    "1161=3278;1110 1161=3279;1111 1161=327a;1112 1161=327b;4e94=3284;516d=3285 f9d1;4e03=3286;",
    "4e5d=3288;682a=3291;6709=3292;793e=3293 fa4c;540d=3294;7279=3295;8ca1=3296;795d=3297 fa51;",
    "52b4=3298;79d8=3299;7537=329a;9069=329c;512a=329d;5370=329e;6ce8=329f;9805=32a0;4f11=32a1;",
    "5199=32a2;6b63=32a3;5de6=32a7;53f3=32a8;533b=32a9;5b97=32aa;5b66=32ab;76e3=32ac;4f01=32ad;",
    "8cc7=32ae;5354=32af;591c=32b0;33 36=32b1;33 37=32b2;33 38=32b3;33 39=32b4;34 30=32b5;34 ",
    "31=32b6;34 32=32b7;34 33=32b8;34 34=32b9;34 35=32ba;34 36=32bb;34 37=32bc;34 38=32bd;34 ",
    "39=32be;35 30=32bf;31 6708=32c0;32 6708=32c1;33 6708=32c2;34 6708=32c3;35 6708=32c4;36 ",
    "6708=32c5;37 6708=32c6;38 6708=32c7;39 6708=32c8;31 30 6708=32c9;31 31 6708=32ca;31 32 ",
    "6708=32cb;30a2=32d0 ff71;30a4=32d1 ff72;30a6=32d2 ff73;30a8=32d3 ff74;30aa=32d4 ff75;",
    "30ab=32d5 ff76;30ad=32d6 ff77;30af=32d7 ff78;30b1=32d8 ff79;30b3=32d9 ff7a;30b5=32da ff7b;",
    "30b7=32db ff7c;30b9=32dc ff7d;30bb=32dd ff7e;30bd=32de ff7f;30bf=32df ff80;30c1=32e0 ff81;",
    "30c4=32e1 ff82;30c6=32e2 ff83;30c8=32e3 ff84;30d2=32ea ff8b;30d5=32eb ff8c;30d8=32ec ff8d;",
    "30db=32ed ff8e;30e4=32f3 ff94;30e6=32f4 ff95;30a2 30cf 309a 30fc 30c8=3300;30a2 30eb 30d5 ",
    "30a1=3301;30a2 30f3 30d8 309a 30a2=3302;30a2 30fc 30eb=3303;30a4 30cb 30f3 30af 3099=3304;",
    "30a4 30f3 30c1=3305;30a6 30a9 30f3=3306;30a8 30b9 30af 30fc 30c8 3099=3307;30a8 30fc 30ab ",
    "30fc=3308;30aa 30f3 30b9=3309;30aa 30fc 30e0=330a;30ab 30a4 30ea=330b;30ab 30e9 30c3 ",
    "30c8=330c;30ab 30ed 30ea 30fc=330d;30ab 3099 30ed 30f3=330e;30ab 3099 30f3 30de=330f;30ad ",
    "3099 30ab 3099=3310;30ad 3099 30cb 30fc=3311;30ad 30e5 30ea 30fc=3312;30ad 3099 30eb 30bf ",
    "3099 30fc=3313;30ad 30ed=3314;30ad 30ed 30af 3099 30e9 30e0=3315;30ad 30ed 30e1 30fc 30c8 ",
    "30eb=3316;30ad 30ed 30ef 30c3 30c8=3317;30af 3099 30e9 30e0=3318;30af 3099 30e9 30e0 30c8 ",
    "30f3=3319;30af 30eb 30bb 3099 30a4 30ed=331a;30af 30ed 30fc 30cd=331b;30b1 30fc 30b9=331c;",
    "30b3 30eb 30ca=331d;30b3 30fc 30db 309a=331e;30b5 30a4 30af 30eb=331f;30b5 30f3 30c1 30fc ",
    "30e0=3320;30b7 30ea 30f3 30af 3099=3321;30bb 30f3 30c1=3322;30bb 30f3 30c8=3323;30bf 3099 ",
    "30fc 30b9=3324;30c6 3099 30b7=3325;30c8 3099 30eb=3326;30c8 30f3=3327;30ca 30ce=3328;30ce ",
    "30c3 30c8=3329;30cf 30a4 30c4=332a;30cf 309a 30fc 30bb 30f3 30c8=332b;30cf 309a 30fc ",
    "30c4=332c;30cf 3099 30fc 30ec 30eb=332d;30d2 309a 30a2 30b9 30c8 30eb=332e;30d2 309a 30af ",
    "30eb=332f;30d2 309a 30b3=3330;30d2 3099 30eb=3331;30d5 30a1 30e9 30c3 30c8 3099=3332;30d5 ",
    "30a3 30fc 30c8=3333;30d5 3099 30c3 30b7 30a7 30eb=3334;30d5 30e9 30f3=3335;30d8 30af 30bf ",
    "30fc 30eb=3336;30d8 309a 30bd=3337;30d8 309a 30cb 30d2=3338;30d8 30eb 30c4=3339;30d8 309a ",
    "30f3 30b9=333a;30d8 309a 30fc 30b7 3099=333b;30d8 3099 30fc 30bf=333c;30db 309a 30a4 30f3 ",
    "30c8=333d;30db 3099 30eb 30c8=333e;30db 30f3=333f;30db 309a 30f3 30c8 3099=3340;30db 30fc ",
    "30eb=3341;30db 30fc 30f3=3342;30de 30a4 30af 30ed=3343;30de 30a4 30eb=3344;30de 30c3 ",
    "30cf=3345;30de 30eb 30af=3346;30de 30f3 30b7 30e7 30f3=3347;30df 30af 30ed 30f3=3348;30df ",
    "30ea=3349;30df 30ea 30cf 3099 30fc 30eb=334a;30e1 30ab 3099=334b;30e1 30ab 3099 30c8 ",
    "30f3=334c;30e1 30fc 30c8 30eb=334d;30e4 30fc 30c8 3099=334e;30e4 30fc 30eb=334f;30e6 30a2 ",
    "30f3=3350;30ea 30c3 30c8 30eb=3351;30ea 30e9=3352;30eb 30d2 309a 30fc=3353;30eb 30fc 30d5 ",
    "3099 30eb=3354;30ec 30e0=3355;30ec 30f3 30c8 30b1 3099 30f3=3356;30ef 30c3 30c8=3357;30 ",
    "70b9=3358;31 70b9=3359;32 70b9=335a;33 70b9=335b;34 70b9=335c;35 70b9=335d;36 70b9=335e;37 ",
    "70b9=335f;38 70b9=3360;39 70b9=3361;31 30 70b9=3362;31 31 70b9=3363;31 32 70b9=3364;31 33 ",
    "70b9=3365;31 34 70b9=3366;31 35 70b9=3367;31 36 70b9=3368;31 37 70b9=3369;31 38 70b9=336a;",
    "31 39 70b9=336b;32 30 70b9=336c;32 31 70b9=336d;32 32 70b9=336e;32 33 70b9=336f;32 34 ",
    "70b9=3370;68 70 61=3371;64 61=3372;61 75=3373;62 61 72=3374;6f 76=3375;70 63=3376;5e73 ",
    "6210=337b;662d 548c=337c;5927 6b63=337d;660e 6cbb=337e;682a 5f0f 4f1a 793e=337f;70 61=3380 ",
    "33a9;6e 61=3381;3bc 61=3382;6d 61=3383;6b 61=3384;6b 62=3385;6d 62=3386 33d4;67 62=3387;63 ",
    "61 6c=3388;6b 63 61 6c=3389;70 66=338a;6e 66=338b;3bc 66=338c;3bc 67=338d;6d 67=338e;6b ",
    "67=338f;68 7a=3390;6b 68 7a=3391;6d 68 7a=3392;67 68 7a=3393;74 68 7a=3394;3bc 6c=3395;6d ",
    "6c=3396;64 6c=3397;6b 6c=3398;66 6d=3399;6e 6d=339a;3bc 6d=339b;6d 6d=339c;63 6d=339d;6b ",
    "6d=339e 33ce;6d 6d 32=339f;63 6d 32=33a0;6d 32=33a1;6b 6d 32=33a2;6d 6d 33=33a3;63 6d ",
    "33=33a4;6d 33=33a5;6b 6d 33=33a6;6d 2215 73=33a7;6d 2215 73 32=33a8;6b 70 61=33aa;6d 70 ",
    "61=33ab;67 70 61=33ac;72 61 64=33ad;72 61 64 2215 73=33ae;72 61 64 2215 73 32=33af;70 ",
    "73=33b0;6e 73=33b1;3bc 73=33b2;6d 73=33b3;70 76=33b4;6e 76=33b5;3bc 76=33b6;6d 76=33b7 33b9;",
    "6b 76=33b8;70 77=33ba;6e 77=33bb;3bc 77=33bc;6d 77=33bd 33bf;6b 77=33be;6b 3c9=33c0;6d ",
    "3c9=33c1;61 2e 6d 2e=33c2;62 71=33c3;63 63=33c4;63 64=33c5;63 2215 6b 67=33c6;63 6f 2e=33c7;",
    "64 62=33c8;67 79=33c9;68 61=33ca;68 70=33cb;69 6e=33cc;6b 6b=33cd;6b 74=33cf;6c 6d=33d0;6c ",
    "6e=33d1;6c 6f 67=33d2;6c 78=33d3;6d 69 6c=33d5;6d 6f 6c=33d6;70 68=33d7;70 2e 6d 2e=33d8;70 ",
    "70 6d=33d9;70 72=33da;73 72=33db;73 76=33dc;77 62=33dd;31 65e5=33e0;32 65e5=33e1;33 ",
    "65e5=33e2;34 65e5=33e3;35 65e5=33e4;36 65e5=33e5;37 65e5=33e6;38 65e5=33e7;39 65e5=33e8;31 ",
    "30 65e5=33e9;31 31 65e5=33ea;31 32 65e5=33eb;31 33 65e5=33ec;31 34 65e5=33ed;31 35 ",
    "65e5=33ee;31 36 65e5=33ef;31 37 65e5=33f0;31 38 65e5=33f1;31 39 65e5=33f2;32 30 65e5=33f3;",
    "32 31 65e5=33f4;32 32 65e5=33f5;32 33 65e5=33f6;32 34 65e5=33f7;32 35 65e5=33f8;32 36 ",
    "65e5=33f9;32 37 65e5=33fa;32 38 65e5=33fb;32 39 65e5=33fc;33 30 65e5=33fd;33 31 65e5=33fe;",
    "a77a=a779;a77c=a77b;1d79=a77d;a78c=a78b;265=a78d;a791=a790;a793=a792;25c=a7ab;261=a7ac;",
    "26c=a7ad;26a=a7ae;29e=a7b0;287=a7b1;29d=a7b2;ab53=a7b3;a794=a7c4;282=a7c5;1d8e=a7c6;",
    "a7c8=a7c7;a7ca=a7c9;a7d1=a7d0;a7d7=a7d6;a7d9=a7d8;a7f6=a7f5;8c48=f900;66f4=f901;8cc8=f903;",
    "6ed1=f904;4e32=f905;53e5=f906;5951=f909;5587=f90b;5948=f90c;61f6=f90d 2f8b1;7669=f90e;",
    "7f85=f90f;863f=f910;87ba=f911;88f8=f912;908f=f913;6a02=f914 f95c f9bf;6d1b=f915;70d9=f916;",
    "73de=f917;843d=f918;916a=f919;99f1=f91a;4e82=f91b;5375=f91c;6b04=f91d;721b=f91e;862d=f91f;",
    "9e1e=f920;5d50=f921;6feb=f922;85cd=f923;8964=f924;62c9=f925;81d8=f926;881f=f927;5eca=f928 ",
    "2f88e;6717=f929 2f8d8;6d6a=f92a;72fc=f92b;90ce=f92c;4f86=f92d;51b7=f92e;52de=f92f;64c4=f930;",
    "6ad3=f931;7210=f932;76e7=f933;8606=f935;865c=f936 2f9b4;8def=f937;9732=f938;9b6f=f939;",
    "9dfa=f93a;788c=f93b 2f94f;797f=f93c;7da0=f93d;83c9=f93e;9304=f93f;8ad6=f941;58df=f942;",
    "5f04=f943;7c60=f944;807e=f945;7262=f946;78ca=f947;8cc2=f948;96f7=f949;58d8=f94a;5c62=f94b;",
    "6a13=f94c;6dda=f94d;6f0f=f94e;7d2f=f94f;7e37=f950;964b=f951;52d2=f952;808b=f953;51dc=f954;",
    "51cc=f955;7a1c=f956;7dbe=f957;83f1=f958;9675=f959;8b80=f95a;62cf=f95b;8afe=f95d;4e39=f95e;",
    "5be7=f95f f9aa 2f86f;6012=f960;7387=f961 f9db;7570=f962 2f938;5317=f963 2f82b;78fb=f964;",
    "4fbf=f965;5fa9=f966;4e0d=f967;6ccc=f968;6578=f969;7d22=f96a;53c3=f96b;585e=f96c;7701=f96d;",
    "8449=f96e;8aaa=f96f f9a1;6bba=f970 2f8f5;6c88=f972;62fe=f973;82e5=f974 2f998;63a0=f975;",
    "7565=f976;4eae=f977;5169=f978;51c9=f979;6881=f97a;7ce7=f97b;826f=f97c;8ad2=f97d;91cf=f97e;",
    "52f5=f97f;5442=f980;5eec=f982;65c5=f983;6ffe=f984;792a=f985;95ad=f986;9a6a=f987;9e97=f988;",
    "9ece=f989;66c6=f98b;6b77=f98c;8f62=f98d;5e74=f98e;6190=f98f;6200=f990;649a=f991;6f23=f992;",
    "7149=f993;7489=f994;79ca=f995;7df4=f996 fa57;806f=f997;8f26=f998;84ee=f999;9023=f99a;",
    "934a=f99b;5217=f99c;52a3=f99d;54bd=f99e;70c8=f99f;88c2=f9a0;5ec9=f9a2;5ff5=f9a3;637b=f9a4;",
    "6bae=f9a5;7c3e=f9a6;7375=f9a7;4ee4=f9a8;56f9=f9a9;5dba=f9ab;601c=f9ac;73b2=f9ad;7469=f9ae;",
    "7f9a=f9af;8046=f9b0;9234=f9b1;96f6=f9b2;9748=f9b3;9818=f9b4;4f8b=f9b5;79ae=f9b6;91b4=f9b7;",
    "96b8=f9b8;60e1=f9b9;4e86=f9ba;50da=f9bb;5bee=f9bc;5c3f=f9bd;6599=f9be;71ce=f9c0;7642=f9c1;",
    "84fc=f9c2;907c=f9c3;6688=f9c5;962e=f9c6;5289=f9c7;677b=f9c8;67f3=f9c9;6d41=f9ca 2f902;",
    "6e9c=f9cb;7409=f9cc;7559=f9cd;786b=f9ce;7d10=f9cf;985e=f9d0;622e=f9d2;9678=f9d3;502b=f9d4;",
    "5d19=f9d5;6dea=f9d6;8f2a=f9d7;5f8b=f9d8;6144=f9d9;6817=f9da;9686=f9dc;5229=f9dd;540f=f9de;",
    "5c65=f9df;6613=f9e0;674e=f9e1;68a8=f9e2;6ce5=f9e3;7406=f9e4;75e2=f9e5;7f79=f9e6;88cf=f9e7;",
    "88e1=f9e8;96e2=f9ea;533f=f9eb;6eba=f9ec;541d=f9ed;71d0=f9ee;7498=f9ef;85fa=f9f0;96a3=f9f1;",
    "9c57=f9f2;9e9f=f9f3;6797=f9f4;6dcb=f9f5;81e8=f9f6;7b20=f9f8;7c92=f9f9;72c0=f9fa;7099=f9fb;",
    "8b58=f9fc;4ec0=f9fd;8336=f9fe;523a=f9ff;5207=fa00 2f850;5ea6=fa01;62d3=fa02;7cd6=fa03;",
    "5b85=fa04;6d1e=fa05;66b4=fa06;8f3b=fa07;964d=fa09;5ed3=fa0b;5140=fa0c;55c0=fa0d;585a=fa10;",
    "6674=fa12;51de=fa15;732a=fa16;76ca=fa17;793c=fa18;795e=fa19;7965=fa1a;798f=fa1b 2f956;",
    "9756=fa1c;7cbe=fa1d;8612=fa20;8af8=fa22;9038=fa25 fa67;90fd=fa26;98ef=fa2a;98fc=fa2b;",
    "9928=fa2c;9db4=fa2d;4fae=fa30 2f805;50e7=fa31 2f80a;514d=fa32 2f80e;52c9=fa33 2f826;",
    "52e4=fa34 2f827;5351=fa35 2f82d;559d=fa36;5606=fa37 2f84c;5668=fa38;5840=fa39;58a8=fa3a;",
    "5c64=fa3b;6094=fa3d 2f8a3;6168=fa3e;618e=fa3f 2f8ab;61f2=fa40 2f8b0;654f=fa41 2f8c8;",
    "65e2=fa42;6691=fa43 2f8cf;6885=fa44 2f8e2;6d77=fa45 2f901;6e1a=fa46;6f22=fa47;716e=fa48;",
    "722b=fa49;7422=fa4a;7891=fa4b;7949=fa4d;7948=fa4e;7950=fa4f;7956=fa50 2f953;798d=fa52;",
    "798e=fa53;7a40=fa54 2f959;7a81=fa55;7bc0=fa56;7e09=fa58;7e41=fa59;7f72=fa5a;8005=fa5b 2f97a;",
    "81ed=fa5c;8279=fa5d fa5e;8457=fa5f 2f99f;8910=fa60;8996=fa61;8b01=fa62;8b39=fa63;8cd3=fa64;",
    "8d08=fa65;8fb6=fa66;96e3=fa68;97ff=fa69;983b=fa6a;66 66=fb00;66 69=fb01;66 6c=fb02;66 66 ",
    "69=fb03;66 66 6c=fb04;73 74=fb05 fb06;574 576=fb13;574 565=fb14;574 56b=fb15;57e 576=fb16;",
    "574 56d=fb17;5d9 5b4=fb1d;5f2 5b7=fb1f;5e2=fb20;5d0=fb21;5d3=fb22;5d4=fb23;5e8=fb27;",
    "5ea=fb28;5e9 5c1=fb2a;5e9 5c2=fb2b;5e9 5bc 5c1=fb2c;5e9 5bc 5c2=fb2d;5d0 5b7=fb2e;5d0 ",
    "5b8=fb2f;5d0 5bc=fb30;5d1 5bc=fb31;5d2 5bc=fb32;5d3 5bc=fb33;5d4 5bc=fb34;5d5 5bc=fb35;5d6 ",
    "5bc=fb36;5d8 5bc=fb38;5d9 5bc=fb39;5da 5bc=fb3a;5db 5bc=fb3b;5dc 5bc=fb3c;5de 5bc=fb3e;5e0 ",
    "5bc=fb40;5e1 5bc=fb41;5e3 5bc=fb43;5e4 5bc=fb44;5e6 5bc=fb46;5e7 5bc=fb47;5e8 5bc=fb48;5e9 ",
    "5bc=fb49;5ea 5bc=fb4a;5d5 5b9=fb4b;5d1 5bf=fb4c;5db 5bf=fb4d;5e4 5bf=fb4e;5d0 5dc=fb4f;",
    "671=fb50 fb51;67b=fb52 fb53 fb54 fb55;67e=fb56 fb57 fb58 fb59;680=fb5a fb5b fb5c fb5d;",
    "67a=fb5e fb5f fb60 fb61;67f=fb62 fb63 fb64 fb65;679=fb66 fb67 fb68 fb69;6a4=fb6a fb6b fb6c ",
    "fb6d;6a6=fb6e fb6f fb70 fb71;684=fb72 fb73 fb74 fb75;683=fb76 fb77 fb78 fb79;686=fb7a fb7b ",
    "fb7c fb7d;687=fb7e fb7f fb80 fb81;68d=fb82 fb83;68c=fb84 fb85;68e=fb86 fb87;688=fb88 fb89;",
    "698=fb8a fb8b;691=fb8c fb8d;6a9=fb8e fb8f fb90 fb91;6af=fb92 fb93 fb94 fb95;6b3=fb96 fb97 ",
    "fb98 fb99;6b1=fb9a fb9b fb9c fb9d;6ba=fb9e fb9f;6bb=fba0 fba1 fba2 fba3;6c1=fba6 fba7 fba8 ",
    "fba9;6be=fbaa fbab fbac fbad;6d2=fbae fbaf;6ad=fbd3 fbd4 fbd5 fbd6;6c7=fbd7 fbd8;6c6=fbd9 ",
    "fbda;6c8=fbdb fbdc;6cb=fbde fbdf;6c5=fbe0 fbe1;6c9=fbe2 fbe3;6d0=fbe4 fbe5 fbe6 fbe7;",
    "649=fbe8 fbe9 feef fef0;64a 654 627=fbea fbeb;64a 654 6d5=fbec fbed;64a 654 648=fbee fbef;",
    "64a 654 6c7=fbf0 fbf1;64a 654 6c6=fbf2 fbf3;64a 654 6c8=fbf4 fbf5;64a 654 6d0=fbf6 fbf7 ",
    "fbf8;64a 654 649=fbf9 fbfa fbfb fc03 fc68;6cc=fbfc fbfd fbfe fbff;64a 654 62c=fc00 fc97;64a ",
    "654 62d=fc01 fc98;64a 654 645=fc02 fc66 fc9a fcdf;64a 654 64a=fc04 fc69;628 62c=fc05 fc9c;",
    "628 62d=fc06 fc9d;628 62e=fc07 fc9e;628 645=fc08 fc6c fc9f fce1;628 649=fc09 fc6e;628 ",
    "64a=fc0a fc6f;62a 62c=fc0b fca1;62a 62d=fc0c fca2;62a 62e=fc0d fca3;62a 645=fc0e fc72 fca4 ",
    "fce3;62a 649=fc0f fc74;62a 64a=fc10 fc75;62b 62c=fc11;62b 645=fc12 fc78 fca6 fce5;62b ",
    "649=fc13 fc7a;62b 64a=fc14 fc7b;62c 62d=fc15 fca7;62c 645=fc16 fca8;62d 62c=fc17 fca9;62d ",
    "645=fc18 fcaa;62e 62c=fc19 fcab;62e 62d=fc1a;62e 645=fc1b fcac;633 62c=fc1c fcad fd34;633 ",
    "62d=fc1d fcae fd35;633 62e=fc1e fcaf fd36;633 645=fc1f fcb0 fce7;635 62d=fc20 fcb1;635 ",
    "645=fc21 fcb3;636 62c=fc22 fcb4;636 62d=fc23 fcb5;636 62e=fc24 fcb6;636 645=fc25 fcb7;637 ",
    "62d=fc26 fcb8;637 645=fc27 fd33 fd3a;638 645=fc28 fcb9 fd3b;639 62c=fc29 fcba;639 645=fc2a ",
    "fcbb;63a 62c=fc2b fcbc;63a 645=fc2c fcbd;641 62c=fc2d fcbe;641 62d=fc2e fcbf;641 62e=fc2f ",
    "fcc0;641 645=fc30 fcc1;641 649=fc31 fc7c;641 64a=fc32 fc7d;642 62d=fc33 fcc2;642 645=fc34 ",
    "fcc3;642 649=fc35 fc7e;642 64a=fc36 fc7f;643 627=fc37 fc80;643 62c=fc38 fcc4;643 62d=fc39 ",
    "fcc5;643 62e=fc3a fcc6;643 644=fc3b fc81 fcc7 fceb;643 645=fc3c fc82 fcc8 fcec;643 649=fc3d ",
    "fc83;643 64a=fc3e fc84;644 62c=fc3f fcc9;644 62d=fc40 fcca;644 62e=fc41 fccb;644 645=fc42 ",
    "fc85 fccc fced;644 649=fc43 fc86;644 64a=fc44 fc87;645 62c=fc45 fcce;645 62d=fc46 fccf;645 ",
    "62e=fc47 fcd0;645 645=fc48 fc89 fcd1;645 649=fc49;645 64a=fc4a;646 62c=fc4b fcd2;646 ",
    "62d=fc4c fcd3;646 62e=fc4d fcd4;646 645=fc4e fc8c fcd5 fcee;646 649=fc4f fc8e;646 64a=fc50 ",
    "fc8f;647 62c=fc51 fcd7;647 645=fc52 fcd8;647 649=fc53;647 64a=fc54;64a 62c=fc55 fcda;64a ",
    "62d=fc56 fcdb;64a 62e=fc57 fcdc;64a 645=fc58 fc93 fcdd fcf0;64a 649=fc59 fc95;64a 64a=fc5a ",
    "fc96;630 670=fc5b;631 670=fc5c;649 670=fc5d fc90;20 64c 651=fc5e;20 64d 651=fc5f;20 64e ",
    "651=fc60;20 64f 651=fc61;20 650 651=fc62;20 651 670=fc63;64a 654 631=fc64;64a 654 632=fc65;",
    "64a 654 646=fc67;628 631=fc6a;628 632=fc6b;628 646=fc6d;62a 631=fc70;62a 632=fc71;62a ",
    "646=fc73;62b 631=fc76;62b 632=fc77;62b 646=fc79;645 627=fc88;646 631=fc8a;646 632=fc8b;646 ",
    "646=fc8d;64a 631=fc91;64a 632=fc92;64a 646=fc94;64a 654 62e=fc99;64a 654 647=fc9b fce0;628 ",
    "647=fca0 fce2;62a 647=fca5 fce4;635 62e=fcb2;644 647=fccd;646 647=fcd6 fcef;647 670=fcd9;",
    "64a 647=fcde fcf1;62b 647=fce6;633 647=fce8 fd31;634 645=fce9 fd0c fd28 fd30;634 647=fcea ",
    "fd32;640 64e 651=fcf2;640 64f 651=fcf3;640 650 651=fcf4;637 649=fcf5 fd11;637 64a=fcf6 fd12;",
    "639 649=fcf7 fd13;639 64a=fcf8 fd14;63a 649=fcf9 fd15;63a 64a=fcfa fd16;633 649=fcfb fd17;",
    "633 64a=fcfc fd18;634 649=fcfd fd19;634 64a=fcfe fd1a;62d 649=fcff fd1b;62d 64a=fd00 fd1c;",
    "62c 649=fd01 fd1d;62c 64a=fd02 fd1e;62e 649=fd03 fd1f;62e 64a=fd04 fd20;635 649=fd05 fd21;",
    "635 64a=fd06 fd22;636 649=fd07 fd23;636 64a=fd08 fd24;634 62c=fd09 fd25 fd2d fd37;634 ",
    "62d=fd0a fd26 fd2e fd38;634 62e=fd0b fd27 fd2f fd39;634 631=fd0d fd29;633 631=fd0e fd2a;635 ",
    "631=fd0f fd2b;636 631=fd10 fd2c;627 64b=fd3c fd3d;62a 62c 645=fd50;62a 62d 62c=fd51 fd52;",
    "62a 62d 645=fd53;62a 62e 645=fd54;62a 645 62c=fd55;62a 645 62d=fd56;62a 645 62e=fd57;62c ",
    "645 62d=fd58 fd59;62d 645 64a=fd5a;62d 645 649=fd5b;633 62d 62c=fd5c;633 62c 62d=fd5d;633 ",
    "62c 649=fd5e;633 645 62d=fd5f fd60;633 645 62c=fd61;633 645 645=fd62 fd63;635 62d 62d=fd64 ",
    "fd65;635 645 645=fd66 fdc5;634 62d 645=fd67 fd68;634 62c 64a=fd69;634 645 62e=fd6a fd6b;634 ",
    "645 645=fd6c fd6d;636 62d 649=fd6e;636 62e 645=fd6f fd70;637 645 62d=fd71 fd72;637 645 ",
    "645=fd73;637 645 64a=fd74;639 62c 645=fd75 fdc4;639 645 645=fd76 fd77;639 645 649=fd78;63a ",
    "645 645=fd79;63a 645 64a=fd7a;63a 645 649=fd7b;641 62e 645=fd7c fd7d;642 645 62d=fd7e fdb4;",
    "642 645 645=fd7f;644 62d 645=fd80 fdb5;644 62d 64a=fd81;644 62d 649=fd82;644 62c 62c=fd83 ",
    "fd84;644 62e 645=fd85 fd86;644 645 62d=fd87 fd88;645 62d 62c=fd89;645 62d 645=fd8a;645 62d ",
    "64a=fd8b;645 62c 62d=fd8c;645 62c 645=fd8d;645 62e 62c=fd8e;645 62e 645=fd8f;645 62c ",
    "62e=fd92;647 645 62c=fd93;647 645 645=fd94;646 62d 645=fd95;646 62d 649=fd96;646 62c ",
    "645=fd97 fd98;646 62c 649=fd99;646 645 64a=fd9a;646 645 649=fd9b;64a 645 645=fd9c fd9d;628 ",
    "62e 64a=fd9e;62a 62c 64a=fd9f;62a 62c 649=fda0;62a 62e 64a=fda1;62a 62e 649=fda2;62a 645 ",
    "64a=fda3;62a 645 649=fda4;62c 645 64a=fda5;62c 62d 649=fda6;62c 645 649=fda7;633 62e ",
    "649=fda8;635 62d 64a=fda9;634 62d 64a=fdaa;636 62d 64a=fdab;644 62c 64a=fdac;644 645 ",
    "64a=fdad;64a 62d 64a=fdae;64a 62c 64a=fdaf;64a 645 64a=fdb0;645 645 64a=fdb1;642 645 ",
    "64a=fdb2;646 62d 64a=fdb3;639 645 64a=fdb6;643 645 64a=fdb7;646 62c 62d=fdb8 fdbd;645 62e ",
    "64a=fdb9;644 62c 645=fdba fdbc;643 645 645=fdbb fdc3;62c 62d 64a=fdbe;62d 62c 64a=fdbf;645 ",
    "62c 64a=fdc0;641 645 64a=fdc1;628 62d 64a=fdc2;633 62e 64a=fdc6;646 62c 64a=fdc7;635 644 ",
    "6d2=fdf0;642 644 6d2=fdf1;627 644 644 647=fdf2;627 643 628 631=fdf3;645 62d 645 62f=fdf4;",
    "635 644 639 645=fdf5;631 633 648 644=fdf6;639 644 64a 647=fdf7;648 633 644 645=fdf8;635 644 ",
    "649=fdf9;635 644 649 20 627 644 644 647 20 639 644 64a 647 20 648 633 644 645=fdfa;62c 644 ",
    "20 62c 644 627 644 647=fdfb;631 6cc 627 644=fdfc;2014=fe31 fe58;2013=fe32;5f=fe33 fe34 fe4d ",
    "fe4e fe4f;7b=fe37 fe5b;7d=fe38 fe5c;3014=fe39 fe5d;3015=fe3a fe5e;3010=fe3b;3011=fe3c;",
    "300a=fe3d;300b=fe3e;2c=fe50;3001=fe51 ff64;3a=fe55;3f=fe56;21=fe57;23=fe5f;26=fe60;2a=fe61;",
    "2d=fe63;3c=fe64;3e=fe65;5c=fe68;24=fe69;25=fe6a;40=fe6b;20 64b=fe70;640 64b=fe71;20 ",
    "64c=fe72;20 64d=fe74;20 64e=fe76;640 64e=fe77;20 64f=fe78;640 64f=fe79;20 650=fe7a;640 ",
    "650=fe7b;20 651=fe7c;640 651=fe7d;20 652=fe7e;640 652=fe7f;621=fe80;627=fe8d fe8e;628=fe8f ",
    "fe90 fe91 fe92;629=fe93 fe94;62a=fe95 fe96 fe97 fe98;62b=fe99 fe9a fe9b fe9c;62c=fe9d fe9e ",
    "fe9f fea0;62d=fea1 fea2 fea3 fea4;62e=fea5 fea6 fea7 fea8;62f=fea9 feaa;630=feab feac;",
    "631=fead feae;632=feaf feb0;633=feb1 feb2 feb3 feb4;634=feb5 feb6 feb7 feb8;635=feb9 feba ",
    "febb febc;636=febd febe febf fec0;637=fec1 fec2 fec3 fec4;638=fec5 fec6 fec7 fec8;639=fec9 ",
    "feca fecb fecc;63a=fecd fece fecf fed0;641=fed1 fed2 fed3 fed4;642=fed5 fed6 fed7 fed8;",
    "643=fed9 feda fedb fedc;644=fedd fede fedf fee0;645=fee1 fee2 fee3 fee4;646=fee5 fee6 fee7 ",
    "fee8;647=fee9 feea feeb feec;648=feed feee;64a=fef1 fef2 fef3 fef4;644 627 653=fef5 fef6;",
    "644 627 654=fef7 fef8;644 627 655=fef9 fefa;644 627=fefb fefc;2985=ff5f;2986=ff60;3002=ff61;",
    "300c=ff62;300d=ff63;30fb=ff65;30f2=ff66;30a1=ff67;30a3=ff68;30a5=ff69;30a7=ff6a;30a9=ff6b;",
    "30e3=ff6c;30e5=ff6d;30e7=ff6e;30c3=ff6f;30fc=ff70;30ef=ff9c;30f3=ff9d;3099=ff9e;309a=ff9f;",
    "a2=ffe0;a3=ffe1;ac=ffe2;a6=ffe4;a5=ffe5;20a9=ffe6;2502=ffe8;25a0=ffed;25cb=ffee;105bb=10594;",
    "105bc=10595;1d157 1d165=1d15e;1d158 1d165=1d15f;1d158 1d165 1d16e=1d160;1d158 1d165 ",
    "1d16f=1d161;1d158 1d165 1d170=1d162;1d158 1d165 1d171=1d163;1d158 1d165 1d172=1d164;1d1b9 ",
    "1d165=1d1bb;1d1ba 1d165=1d1bc;1d1b9 1d165 1d16e=1d1bd;1d1ba 1d165 1d16e=1d1be;1d1b9 1d165 ",
    "1d16f=1d1bf;1d1ba 1d165 1d16f=1d1c0;2207=1d6c1 1d6fb 1d735 1d76f 1d7a9;2202=1d6db 1d715 ",
    "1d74f 1d789 1d7c3;4e3d=2f800;4e38=2f801;4e41=2f802;20122=2f803;4f60=2f804;4fbb=2f806;",
    "5002=2f807;507a=2f808;5099=2f809;50cf=2f80b;349e=2f80c;2063a=2f80d;5154=2f80f;5164=2f810;",
    "5177=2f811;2051c=2f812;34b9=2f813;5167=2f814;518d=2f815;2054b=2f816;5197=2f817;51a4=2f818;",
    "4ecc=2f819;51ac=2f81a;51b5=2f81b;291df=2f81c;5203=2f81e;34df=2f81f;523b=2f820;5246=2f821;",
    "5272=2f822;5277=2f823;3515=2f824;52c7=2f825;52fa=2f828;5305=2f829;5306=2f82a;5349=2f82c;",
    "535a=2f82e;5373=2f82f;537d=2f830;537f=2f831 2f832 2f833;20a2c=2f834;7070=2f835;53ca=2f836;",
    "53df=2f837;20b63=2f838;53eb=2f839;53f1=2f83a;5406=2f83b;549e=2f83c;5438=2f83d;5448=2f83e;",
    "5468=2f83f;54a2=2f840;54f6=2f841;5510=2f842;5553=2f843;5563=2f844;5584=2f845 2f846;",
    "5599=2f847;55ab=2f848;55b3=2f849;55c2=2f84a;5716=2f84b;5717=2f84d;5651=2f84e;5674=2f84f;",
    "58ee=2f851;57ce=2f852;57f4=2f853;580d=2f854;578b=2f855;5832=2f856;5831=2f857;58ac=2f858;",
    "214e4=2f859;58f2=2f85a;58f7=2f85b;5906=2f85c;591a=2f85d;5922=2f85e;5962=2f85f;216a8=2f860;",
    "216ea=2f861;59ec=2f862;5a1b=2f863;5a27=2f864;59d8=2f865;5a66=2f866;36ee=2f867;2136a=2f868;",
    "5b08=2f869;5b3e=2f86a 2f86b;219c8=2f86c;5bc3=2f86d;5bd8=2f86e;5bf3=2f870;21b18=2f871;",
    "5bff=2f872;5c06=2f873;5f33=2f874;3781=2f876;5c60=2f877;5cc0=2f879;5c8d=2f87a;21de4=2f87b;",
    "5d43=2f87c;21de6=2f87d;5d6e=2f87e;5d6b=2f87f;5d7c=2f880;5de1=2f881;5de2=2f882;382f=2f883;",
    "5dfd=2f884;5e28=2f885;5e3d=2f886;5e69=2f887;3862=2f888;22183=2f889;387c=2f88a;5eb0=2f88b;",
    "5eb3=2f88c;5eb6=2f88d;2a392=2f88f;22331=2f891 2f892;8201=2f893 2f98b;5f22=2f894 2f895;",
    "38c7=2f896;232b8=2f897;261da=2f898;5f62=2f899;5f6b=2f89a;38e3=2f89b;5f9a=2f89c;5fcd=2f89d;",
    "5fd7=2f89e;5ff9=2f89f;6081=2f8a0;393a=2f8a1;391c=2f8a2;226d4=2f8a4;60c7=2f8a5;6148=2f8a6;",
    "614c=2f8a7 2f8a9;614e=2f8a8;617a=2f8aa;61b2=2f8ac;61a4=2f8ad;61af=2f8ae;61de=2f8af;",
    "6210=2f8b2;621b=2f8b3;625d=2f8b4;62b1=2f8b5;62d4=2f8b6;6350=2f8b7;22b0c=2f8b8;633d=2f8b9;",
    "62fc=2f8ba;6368=2f8bb;6383=2f8bc;63e4=2f8bd;22bf1=2f8be;6422=2f8bf;63c5=2f8c0;63a9=2f8c1;",
    "3a2e=2f8c2;6469=2f8c3;647e=2f8c4;649d=2f8c5;6477=2f8c6;3a6c=2f8c7;656c=2f8c9;2300a=2f8ca;",
    "65e3=2f8cb;66f8=2f8cc;6649=2f8cd;3b19=2f8ce;3b08=2f8d0;3ae4=2f8d1;5192=2f8d2;5195=2f8d3;",
    "6700=2f8d4;669c=2f8d5;80ad=2f8d6;43d9=2f8d7;671b=2f8d9;6721=2f8da;675e=2f8db;6753=2f8dc;",
    "233c3=2f8dd;3b49=2f8de;67fa=2f8df;6785=2f8e0;6852=2f8e1;2346d=2f8e3;688e=2f8e4;681f=2f8e5;",
    "6914=2f8e6;3b9d=2f8e7;6942=2f8e8;69a3=2f8e9;69ea=2f8ea;6aa8=2f8eb;236a3=2f8ec;6adb=2f8ed;",
    "3c18=2f8ee;6b21=2f8ef;238a7=2f8f0;6b54=2f8f1;3c4e=2f8f2;6b72=2f8f3;6b9f=2f8f4;6bbb=2f8f6;",
    "23a8d=2f8f7;21d0b=2f8f8;23afa=2f8f9;6c4e=2f8fa;23cbc=2f8fb;6cbf=2f8fc;6ccd=2f8fd;6c67=2f8fe;",
    "6d16=2f8ff;6d3e=2f900;6d69=2f903;6d78=2f904;6d85=2f905;23d1e=2f906;6d34=2f907;6e2f=2f908;",
    "6e6e=2f909;3d33=2f90a;6ecb=2f90b;6ec7=2f90c;23ed1=2f90d;6df9=2f90e;6f6e=2f90f;23f5e=2f910;",
    "23f8e=2f911;6fc6=2f912;7039=2f913;701e=2f914;701b=2f915;3d96=2f916;704a=2f917;707d=2f918;",
    "7077=2f919;70ad=2f91a;20525=2f91b;7145=2f91c;24263=2f91d;719c=2f91e;43ab=2f91f;7228=2f920;",
    "7235=2f921;7250=2f922;24608=2f923;7280=2f924;7295=2f925;24735=2f926;24814=2f927;737a=2f928;",
    "738b=2f929;3eac=2f92a;73a5=2f92b;3eb8=2f92c 2f92d;7447=2f92e;745c=2f92f;7471=2f930;",
    "7485=2f931;74ca=2f932;3f1b=2f933;7524=2f934;24c36=2f935;753e=2f936;24c92=2f937;2219f=2f939;",
    "7610=2f93a;24fa1=2f93b;24fb8=2f93c;25044=2f93d;3ffc=2f93e;4008=2f93f;76f4=2f940;250f3=2f941;",
    "250f2=2f942;25119=2f943;25133=2f944;771e=2f945;771f=2f946 2f947;774a=2f948;4039=2f949;",
    "778b=2f94a;4046=2f94b;4096=2f94c;2541d=2f94d;784e=2f94e;78cc=2f950;40e3=2f951;25626=2f952;",
    "2569a=2f954;256c5=2f955;79eb=2f957;412f=2f958;7a4a=2f95a;7a4f=2f95b;2597c=2f95c;25aa7=2f95d ",
    "2f95e;7aae=2f95f;4202=2f960;25bab=2f961;7bc6=2f962;7bc9=2f963;4227=2f964;25c80=2f965;",
    "7cd2=2f966;42a0=2f967;7ce8=2f968;7ce3=2f969;7d00=2f96a;25f86=2f96b;7d63=2f96c;4301=2f96d;",
    "7dc7=2f96e;7e02=2f96f;7e45=2f970;4334=2f971;26228=2f972;26247=2f973;4359=2f974;262d9=2f975;",
    "7f7a=2f976;2633e=2f977;7f95=2f978;7ffa=2f979;264da=2f97b;26523=2f97c;8060=2f97d;265a8=2f97e;",
    "8070=2f97f;2335f=2f980;43d5=2f981;80b2=2f982;8103=2f983;440b=2f984;813e=2f985;5ab5=2f986;",
    "267a7=2f987;267b5=2f988;23393=2f989;2339c=2f98a;8204=2f98c;8f9e=2f98d;446b=2f98e;8291=2f98f;",
    "828b=2f990;829d=2f991;52b3=2f992;82b1=2f993;82b3=2f994;82bd=2f995;82e6=2f996;26b3c=2f997;",
    "831d=2f999;8363=2f99a;83ad=2f99b;8323=2f99c;83bd=2f99d;83e7=2f99e;8353=2f9a0;83ca=2f9a1;",
    "83cc=2f9a2;83dc=2f9a3;26c36=2f9a4;26d6b=2f9a5;26cd5=2f9a6;452b=2f9a7;84f1=2f9a8;84f3=2f9a9;",
    "8516=2f9aa;273ca=2f9ab;8564=2f9ac;26f2c=2f9ad;455d=2f9ae;4561=2f9af;26fb1=2f9b0;270d2=2f9b1;",
    "456b=2f9b2;8650=2f9b3;8667=2f9b5;8669=2f9b6;86a9=2f9b7;8688=2f9b8;870e=2f9b9;86e2=2f9ba;",
    "8779=2f9bb;8728=2f9bc;876b=2f9bd;8786=2f9be;4d57=2f9bf;87e1=2f9c0;8801=2f9c1;45f9=2f9c2;",
    "8860=2f9c3;27667=2f9c5;88d7=2f9c6;88de=2f9c7;4635=2f9c8;88fa=2f9c9;34bb=2f9ca;278ae=2f9cb;",
    "27966=2f9cc;46be=2f9cd;46c7=2f9ce;8aa0=2f9cf;8aed=2f9d0;8b8a=2f9d1;27ca8=2f9d3;8cab=2f9d4;",
    "8cc1=2f9d5;8d1b=2f9d6;8d77=2f9d7;27f2f=2f9d8;20804=2f9d9;8dcb=2f9da;8dbc=2f9db;8df0=2f9dc;",
    "208de=2f9dd;8ed4=2f9de;8f38=2f9df;285d2=2f9e0;285ed=2f9e1;9094=2f9e2;90f1=2f9e3;9111=2f9e4;",
    "2872e=2f9e5;911b=2f9e6;9238=2f9e7;92d7=2f9e8;92d8=2f9e9;927c=2f9ea;93f9=2f9eb;9415=2f9ec;",
    "28bfa=2f9ed;958b=2f9ee;4995=2f9ef;95b7=2f9f0;28d77=2f9f1;49e6=2f9f2;96c3=2f9f3;5db2=2f9f4;",
    "9723=2f9f5;29145=2f9f6;2921a=2f9f7;4a6e=2f9f8;4a76=2f9f9;97e0=2f9fa;2940a=2f9fb;4ab2=2f9fc;",
    "29496=2f9fd;980b=2f9fe 2f9ff;9829=2fa00;295b6=2fa01;98e2=2fa02;4b33=2fa03;9929=2fa04;",
    "99a7=2fa05;99c2=2fa06;99fe=2fa07;4bce=2fa08;29b30=2fa09;9b12=2fa0a;9c40=2fa0b;9cfd=2fa0c;",
    "4cce=2fa0d;4ced=2fa0e;9d67=2fa0f;2a0ce=2fa10;4cf8=2fa11;2a105=2fa12;2a20e=2fa13;2a291=2fa14;",
    "4d56=2fa16;9efe=2fa18;9f05=2fa19;9f0f=2fa1a;9f16=2fa1b;2a600=2fa1d"]

end Host
end EngineClient
