import EngineClient.Text.Listing

/-!
# Upper case

The upper-case form of a text, in every script whose letters come in pairs. A letter may
widen: the sharp s becomes two letters.
-/

namespace EngineClient
namespace Text

/-! ## Tables

All numbers are hexadecimal.
-/

/-- Runs of letters whose capitals follow each other too: the first, the last, the step from one
to the next, and the capital of the first. -/
def upperRuns : String :=
  String.join [
    "61 7a 1 41;e0 f6 1 c0;f8 fe 1 d8;101 12f 2 100;133 137 2 132;13a 148 2 139;14b 177 2 14a;",
    "17a 17e 2 179;1a1 1a5 2 1a0;1ce 1dc 2 1cd;1df 1ef 2 1de;1f9 21f 2 1f8;223 233 2 222;247 24f ",
    "2 246;37b 37d 1 3fd;3ad 3af 1 388;3b1 3c1 1 391;3c3 3cb 1 3a3;3d9 3ef 2 3d8;430 44f 1 410;",
    "450 45f 1 400;461 481 2 460;48b 4bf 2 48a;4c2 4ce 2 4c1;4d1 52f 2 4d0;561 586 1 531;10d0 ",
    "10fa 1 1c90;10fd 10ff 1 1cbd;13f8 13fd 1 13f0;1e01 1e95 2 1e00;1ea1 1eff 2 1ea0;1f00 1f07 1 ",
    "1f08;1f10 1f15 1 1f18;1f20 1f27 1 1f28;1f30 1f37 1 1f38;1f40 1f45 1 1f48;1f51 1f57 2 1f59;",
    "1f60 1f67 1 1f68;1f72 1f75 1 1fc8;2170 217f 1 2160;24d0 24e9 1 24b6;2c30 2c5f 1 2c00;2c68 ",
    "2c6c 2 2c67;2c81 2ce3 2 2c80;2d00 2d25 1 10a0;a641 a66d 2 a640;a681 a69b 2 a680;a723 a72f 2 ",
    "a722;a733 a76f 2 a732;a77f a787 2 a77e;a797 a7a9 2 a796;a7b5 a7c3 2 a7b4;ab70 abbf 1 13a0;",
    "ff41 ff5a 1 ff21;10428 1044f 1 10400;104d8 104fb 1 104b0;10597 105a1 1 10570;105a3 105b1 1 ",
    "1057c;105b3 105b9 1 1058c;10cc0 10cf2 1 10c80;118c0 118df 1 118a0;16e60 16e7f 1 16e40;1e922 ",
    "1e943 1 1e900"]

/-- Capitals, or what is written for a letter without one, and the letters they are for. -/
def upperGroups : String :=
  String.join [
    "39c=b5;53 53=df;178=ff;49=131;2bc 4e=149;53=17f;243=180;182=183;184=185;187=188;18b=18c;",
    "191=192;1f6=195;198=199;23d=19a;220=19e;1a7=1a8;1ac=1ad;1af=1b0;1b3=1b4;1b5=1b6;1b8=1b9;",
    "1bc=1bd;1f7=1bf;1c4=1c5 1c6;1c7=1c8 1c9;1ca=1cb 1cc;18e=1dd;4a 30c=1f0;1f1=1f2 1f3;1f4=1f5;",
    "23b=23c;2c7e=23f;2c7f=240;241=242;2c6f=250;2c6d=251;2c70=252;181=253;186=254;189=256;",
    "18a=257;18f=259;190=25b;a7ab=25c;193=260;a7ac=261;194=263;a78d=265;a7aa=266;197=268;196=269;",
    "a7ae=26a;2c62=26b;a7ad=26c;19c=26f;2c6e=271;19d=272;19f=275;2c64=27d;1a6=280;a7c5=282;",
    "1a9=283;a7b1=287;1ae=288;244=289;1b1=28a;1b2=28b;245=28c;1b7=292;a7b2=29d;a7b0=29e;399=345 ",
    "1fbe;370=371;372=373;376=377;399 308 301=390 1fd3;386=3ac;3a5 308 301=3b0 1fe3;3a3=3c2;",
    "38c=3cc;38e=3cd;38f=3ce;392=3d0;398=3d1;3a6=3d5;3a0=3d6;3cf=3d7;39a=3f0;3a1=3f1;3f9=3f2;",
    "37f=3f3;395=3f5;3f7=3f8;3fa=3fb;4c0=4cf;535 552=587;412=1c80;414=1c81;41e=1c82;421=1c83;",
    "422=1c84 1c85;42a=1c86;462=1c87;a64a=1c88;a77d=1d79;2c63=1d7d;a7c6=1d8e;48 331=1e96;54 ",
    "308=1e97;57 30a=1e98;59 30a=1e99;41 2be=1e9a;1e60=1e9b;3a5 313=1f50;3a5 313 300=1f52;3a5 ",
    "313 301=1f54;3a5 313 342=1f56;1fba=1f70;1fbb=1f71;1fda=1f76;1fdb=1f77;1ff8=1f78;1ff9=1f79;",
    "1fea=1f7a;1feb=1f7b;1ffa=1f7c;1ffb=1f7d;1f08 399=1f80 1f88;1f09 399=1f81 1f89;1f0a 399=1f82 ",
    "1f8a;1f0b 399=1f83 1f8b;1f0c 399=1f84 1f8c;1f0d 399=1f85 1f8d;1f0e 399=1f86 1f8e;1f0f ",
    "399=1f87 1f8f;1f28 399=1f90 1f98;1f29 399=1f91 1f99;1f2a 399=1f92 1f9a;1f2b 399=1f93 1f9b;",
    "1f2c 399=1f94 1f9c;1f2d 399=1f95 1f9d;1f2e 399=1f96 1f9e;1f2f 399=1f97 1f9f;1f68 399=1fa0 ",
    "1fa8;1f69 399=1fa1 1fa9;1f6a 399=1fa2 1faa;1f6b 399=1fa3 1fab;1f6c 399=1fa4 1fac;1f6d ",
    "399=1fa5 1fad;1f6e 399=1fa6 1fae;1f6f 399=1fa7 1faf;1fb8=1fb0;1fb9=1fb1;1fba 399=1fb2;391 ",
    "399=1fb3 1fbc;386 399=1fb4;391 342=1fb6;391 342 399=1fb7;1fca 399=1fc2;397 399=1fc3 1fcc;",
    "389 399=1fc4;397 342=1fc6;397 342 399=1fc7;1fd8=1fd0;1fd9=1fd1;399 308 300=1fd2;399 ",
    "342=1fd6;399 308 342=1fd7;1fe8=1fe0;1fe9=1fe1;3a5 308 300=1fe2;3a1 313=1fe4;1fec=1fe5;3a5 ",
    "342=1fe6;3a5 308 342=1fe7;1ffa 399=1ff2;3a9 399=1ff3 1ffc;38f 399=1ff4;3a9 342=1ff6;3a9 342 ",
    "399=1ff7;2132=214e;2183=2184;2c60=2c61;23a=2c65;23e=2c66;2c72=2c73;2c75=2c76;2ceb=2cec;",
    "2ced=2cee;2cf2=2cf3;10c7=2d27;10cd=2d2d;a779=a77a;a77b=a77c;a78b=a78c;a790=a791;a792=a793;",
    "a7c4=a794;a7c7=a7c8;a7c9=a7ca;a7d0=a7d1;a7d6=a7d7;a7d8=a7d9;a7f5=a7f6;a7b3=ab53;46 46=fb00;",
    "46 49=fb01;46 4c=fb02;46 46 49=fb03;46 46 4c=fb04;53 54=fb05 fb06;544 546=fb13;544 535=fb14;",
    "544 53b=fb15;54e 546=fb16;544 53d=fb17;10594=105bb;10595=105bc"]

/-! ## Mapping -/

def upperMapping : Mapping := .ofListings upperRuns upperGroups

def upper (s : String) : String :=
  String.ofList (s.toList.flatMap upperMapping.apply)

def lower (s : String) : String :=
  String.ofList (s.toList.map Char.toLower)

end Text
end EngineClient
