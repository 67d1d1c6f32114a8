/-
This file holds how the characters of a host name are mapped before the name is compared: most
stay, capital letters and compatibility forms are replaced, some are dropped, and some are not
allowed. The table is that of Unicode 17 for names that are processed without transitional
rules, in which the four deviation characters stay, together with the characters that Unicode 18
adds: they stay too, but for its capital, subscript and modifier letters, which are replaced.
-/

import GatewayOperator.Text.Ranges

namespace GatewayOperator.Unicode

open GatewayOperator.Text

/-- The runs of the table. A run starts at a code point and reaches to the next run: `v` keeps,
`i` drops and `x` refuses its characters; `o` shifts them so that the first becomes the given
code point; `m` replaces the one character of the run by the given ones. -/
def hostMappingText : String :=
  "0v 41o61 5bv 80x a0o20 a1v a8m20.308 a9v aao61 abv adi aev afm20.304 b0v b2o32 b4m20.301 b5o3bc
  b6v b8m20.327 b9o31 bao6f bbv bcm31.2044.34 bdm31.2044.32 bem33.2044.34 bfv c0oe0 d7v d8of8 dfv
  100o101 101v 102o103 103v 104o105 105v 106o107 107v 108o109 109v 10ao10b 10bv 10co10d 10dv
  10eo10f 10fv 110o111 111v 112o113 113v 114o115 115v 116o117 117v 118o119 119v 11ao11b 11bv
  11co11d 11dv 11eo11f 11fv 120o121 121v 122o123 123v 124o125 125v 126o127 127v 128o129 129v
  12ao12b 12bv 12co12d 12dv 12eo12f 12fv 130m69.307 131v 132m69.6a 134o135 135v 136o137 137v
  139o13a 13av 13bo13c 13cv 13do13e 13ev 13fm6c.b7 141o142 142v 143o144 144v 145o146 146v 147o148
  148v 149m2bc.6e 14ao14b 14bv 14co14d 14dv 14eo14f 14fv 150o151 151v 152o153 153v 154o155 155v
  156o157 157v 158o159 159v 15ao15b 15bv 15co15d 15dv 15eo15f 15fv 160o161 161v 162o163 163v
  164o165 165v 166o167 167v 168o169 169v 16ao16b 16bv 16co16d 16dv 16eo16f 16fv 170o171 171v
  172o173 173v 174o175 175v 176o177 177v 178off 179o17a 17av 17bo17c 17cv 17do17e 17ev 17fo73 180v
  181o253 182o183 183v 184o185 185v 186o254 187o188 188v 189o256 18bo18c 18cv 18eo1dd 18fo259
  190o25b 191o192 192v 193o260 194o263 195v 196o269 197o268 198o199 199v 19co26f 19do272 19ev
  19fo275 1a0o1a1 1a1v 1a2o1a3 1a3v 1a4o1a5 1a5v 1a6o280 1a7o1a8 1a8v 1a9o283 1aav 1aco1ad 1adv
  1aeo288 1afo1b0 1b0v 1b1o28a 1b3o1b4 1b4v 1b5o1b6 1b6v 1b7o292 1b8o1b9 1b9v 1bco1bd 1bdv
  1c4m64.17e 1c7m6c.6a 1cam6e.6a 1cdo1ce 1cev 1cfo1d0 1d0v 1d1o1d2 1d2v 1d3o1d4 1d4v 1d5o1d6 1d6v
  1d7o1d8 1d8v 1d9o1da 1dav 1dbo1dc 1dcv 1deo1df 1dfv 1e0o1e1 1e1v 1e2o1e3 1e3v 1e4o1e5 1e5v
  1e6o1e7 1e7v 1e8o1e9 1e9v 1eao1eb 1ebv 1eco1ed 1edv 1eeo1ef 1efv 1f1m64.7a 1f4o1f5 1f5v 1f6o195
  1f7o1bf 1f8o1f9 1f9v 1fao1fb 1fbv 1fco1fd 1fdv 1feo1ff 1ffv 200o201 201v 202o203 203v 204o205
  205v 206o207 207v 208o209 209v 20ao20b 20bv 20co20d 20dv 20eo20f 20fv 210o211 211v 212o213 213v
  214o215 215v 216o217 217v 218o219 219v 21ao21b 21bv 21co21d 21dv 21eo21f 21fv 220o19e 221v
  222o223 223v 224o225 225v 226o227 227v 228o229 229v 22ao22b 22bv 22co22d 22dv 22eo22f 22fv
  230o231 231v 232o233 233v 23ao2c65 23bo23c 23cv 23do19a 23eo2c66 23fv 241o242 242v 243o180
  244o289 245o28c 246o247 247v 248o249 249v 24ao24b 24bv 24co24d 24dv 24eo24f 24fv 2b0o68 2b1o266
  2b2o6a 2b3o72 2b4o279 2b5o27b 2b6o281 2b7o77 2b8o79 2b9v 2d8m20.306 2d9m20.307 2dam20.30a
  2dbm20.328 2dcm20.303 2ddm20.30b 2dev 2e0o263 2e1o6c 2e2o73 2e3o78 2e4o295 2e5v 340o300 342v
  343o313 344m308.301 345o3b9 346v 34fi 350v 370o371 371v 372o373 373v 374o2b9 375v 376o377 377v
  378x 37am20.3b9 37bv 37eo3b 37fo3f3 380x 384m20.301 385m20.308.301 386o3ac 387ob7 388o3ad 38bx
  38co3cc 38dx 38eo3cd 390v 391o3b1 3a2x 3a3o3c3 3acv 3cfo3d7 3d0o3b2 3d1o3b8 3d2o3c5 3d3o3cd
  3d4o3cb 3d5o3c6 3d6o3c0 3d7v 3d8o3d9 3d9v 3dao3db 3dbv 3dco3dd 3ddv 3deo3df 3dfv 3e0o3e1 3e1v
  3e2o3e3 3e3v 3e4o3e5 3e5v 3e6o3e7 3e7v 3e8o3e9 3e9v 3eao3eb 3ebv 3eco3ed 3edv 3eeo3ef 3efv
  3f0o3ba 3f1o3c1 3f2o3c3 3f3v 3f4o3b8 3f5o3b5 3f6v 3f7o3f8 3f8v 3f9o3c3 3fao3fb 3fbv 3fdo37b
  400o450 410o430 430v 460o461 461v 462o463 463v 464o465 465v 466o467 467v 468o469 469v 46ao46b
  46bv 46co46d 46dv 46eo46f 46fv 470o471 471v 472o473 473v 474o475 475v 476o477 477v 478o479 479v
  47ao47b 47bv 47co47d 47dv 47eo47f 47fv 480o481 481v 48ao48b 48bv 48co48d 48dv 48eo48f 48fv
  490o491 491v 492o493 493v 494o495 495v 496o497 497v 498o499 499v 49ao49b 49bv 49co49d 49dv
  49eo49f 49fv 4a0o4a1 4a1v 4a2o4a3 4a3v 4a4o4a5 4a5v 4a6o4a7 4a7v 4a8o4a9 4a9v 4aao4ab 4abv
  4aco4ad 4adv 4aeo4af 4afv 4b0o4b1 4b1v 4b2o4b3 4b3v 4b4o4b5 4b5v 4b6o4b7 4b7v 4b8o4b9 4b9v
  4bao4bb 4bbv 4bco4bd 4bdv 4beo4bf 4bfv 4c0o4cf 4c1o4c2 4c2v 4c3o4c4 4c4v 4c5o4c6 4c6v 4c7o4c8
  4c8v 4c9o4ca 4cav 4cbo4cc 4ccv 4cdo4ce 4cev 4d0o4d1 4d1v 4d2o4d3 4d3v 4d4o4d5 4d5v 4d6o4d7 4d7v
  4d8o4d9 4d9v 4dao4db 4dbv 4dco4dd 4ddv 4deo4df 4dfv 4e0o4e1 4e1v 4e2o4e3 4e3v 4e4o4e5 4e5v
  4e6o4e7 4e7v 4e8o4e9 4e9v 4eao4eb 4ebv 4eco4ed 4edv 4eeo4ef 4efv 4f0o4f1 4f1v 4f2o4f3 4f3v
  4f4o4f5 4f5v 4f6o4f7 4f7v 4f8o4f9 4f9v 4fao4fb 4fbv 4fco4fd 4fdv 4feo4ff 4ffv 500o501 501v
  502o503 503v 504o505 505v 506o507 507v 508o509 509v 50ao50b 50bv 50co50d 50dv 50eo50f 50fv
  510o511 511v 512o513 513v 514o515 515v 516o517 517v 518o519 519v 51ao51b 51bv 51co51d 51dv
  51eo51f 51fv 520o521 521v 522o523 523v 524o525 525v 526o527 527v 528o529 529v 52ao52b 52bv
  52co52d 52dv 52eo52f 52fv 530x 531o561 557x 558m588 559v 587m565.582 588v 590x 591v 5c8x 5d0v
  5ebx 5efv 5f5x 606v 61cx 61dv 675m627.674 676m648.674 677m6c7.674 678m64a.674 679v 6ddx 6dev 70ex
  710v 74bx 74dv 7b2x 7c0v 7fbx 7fdv 82ex 830v 83fx 840v 85cx 85ev 85fx 860v 86bx 870v 890x 897v
  8e2x 8e3v 958m915.93c 959m916.93c 95am917.93c 95bm91c.93c 95cm921.93c 95dm922.93c 95em92b.93c
  95fm92f.93c 960v 984x 985v 98dx 98fv 991x 993v 9a9x 9aav 9b1x 9b2v 9b3x 9b6v 9bax 9bcv 9c5x 9c7v
  9c9x 9cbv 9cfx 9d7v 9d8x 9dcm9a1.9bc 9ddm9a2.9bc 9dex 9dfm9af.9bc 9e0v 9e4x 9e6v 9ffx a01v a04x
  a05v a0bx a0fv a11x a13v a29x a2av a31x a32v a33ma32.a3c a34x a35v a36ma38.a3c a37x a38v a3ax
  a3cv a3dx a3ev a43x a47v a49x a4bv a4ex a51v a52x a59ma16.a3c a5ama17.a3c a5bma1c.a3c a5cv a5dx
  a5ema2b.a3c a5fx a66v a77x a81v a84x a85v a8ex a8fv a92x a93v aa9x aaav ab1x ab2v ab4x ab5v abax
  abcv ac6x ac7v acax acbv acex ad0v ad1x ae0v ae4x ae6v af2x af9v b00x b01v b04x b05v b0dx b0fv
  b11x b13v b29x b2av b31x b32v b34x b35v b3ax b3cv b45x b47v b49x b4bv b4ex b53v b58x b5cmb21.b3c
  b5dmb22.b3c b5ex b5fv b64x b66v b78x b82v b84x b85v b8bx b8ev b91x b92v b96x b99v b9bx b9cv b9dx
  b9ev ba0x ba3v ba5x ba8v babx baev bbax bbev bc3x bc6v bc9x bcav bcex bd0v bd1x bd7v bd8x be6v
  bfbx c00v c0dx c0ev c11x c12v c29x c2av c3ax c3cv c45x c46v c49x c4av c4ex c55v c57x c58v c5bx
  c5cv c5ex c60v c64x c66v c70x c77v c8dx c8ev c91x c92v ca9x caav cb4x cb5v cbax cbcv cc5x cc6v
  cc9x ccav ccex cd5v cd7x cdcv cdfx ce0v ce4x ce6v cf0x cf1v cf4x d00v d0dx d0ev d11x d12v d45x
  d46v d49x d4av d50x d54v d64x d66v d80x d81v d84x d85v d97x d9av db2x db3v dbcx dbdv dbex dc0v
  dc7x dcav dcbx dcfv dd5x dd6v dd7x dd8v de0x de6v df0x df2v df5x e01v e33me4d.e32 e34v e3bx e3fv
  e5cx e81v e83x e84v e85x e86v e8bx e8cv ea4x ea5v ea6x ea7v eb3mecd.eb2 eb4v ebex ec0v ec5x ec6v
  ec7x ec8v ecfx ed0v edax edcmeab.e99 eddmeab.ea1 edev ee0x f00v f0cof0b f0dv f43mf42.fb7 f44v
  f48x f49v f4dmf4c.fb7 f4ev f52mf51.fb7 f53v f57mf56.fb7 f58v f5cmf5b.fb7 f5dv f69mf40.fb5 f6av
  f6dx f71v f73mf71.f72 f74v f75mf71.f74 f76mfb2.f80 f77mfb2.f71.f80 f78mfb3.f80 f79mfb3.f71.f80
  f7av f81mf71.f80 f82v f93mf92.fb7 f94v f98x f99v f9dmf9c.fb7 f9ev fa2mfa1.fb7 fa3v fa7mfa6.fb7
  fa8v facmfab.fb7 fadv fb9mf90.fb5 fbav fbdx fbev fcdx fcev fdbx 1000v 10a0o2d00 10c6x 10c7o2d27
  10c8x 10cdo2d2d 10cex 10d0v 10fco10dc 10fdv 115fi 1161v 1249x 124av 124ex 1250v 1257x 1258v 1259x
  125av 125ex 1260v 1289x 128av 128ex 1290v 12b1x 12b2v 12b6x 12b8v 12bfx 12c0v 12c1x 12c2v 12c6x
  12c8v 12d7x 12d8v 1311x 1312v 1316x 1318v 135bx 135dv 137dx 1380v 139ax 13a0v 13f6x 13f8o13f0
  13fex 1400v 1680x 1681v 169dx 16a0v 16f9x 1700v 1716x 171fv 1737x 1740v 1754x 1760v 176dx 176ev
  1771x 1772v 1774x 1780v 17b4i 17b6v 17dex 17e0v 17eax 17f0v 17fax 1800v 180bi 1810v 181ax 1820v
  1879x 1880v 18abx 18b0v 18f6x 1900v 191fx 1920v 192cx 1930v 193cx 1940v 1941x 1944v 196ex 1970v
  1975x 1980v 19acx 19b0v 19cax 19d0v 19dbx 19dev 1a1cx 1a1ev 1a5fx 1a60v 1a7dx 1a7fv 1a8ax 1a90v
  1a9ax 1aa0v 1aaex 1ab0v 1af1x 1b00v 1b4dx 1b4ev 1bf4x 1bfcv 1c38x 1c3bv 1c4ax 1c4dv 1c80o432
  1c81o434 1c82o43e 1c83o441 1c84m442 1c86o44a 1c87o463 1c88oa64b 1c89o1c8a 1c8av 1c8bx 1c90o10d0
  1cbbx 1cbdo10fd 1cc0v 1cc8x 1cd0v 1cfbx 1d00v 1d2co61 1d2doe6 1d2eo62 1d2fv 1d30o64 1d32o1dd
  1d33o67 1d3bv 1d3co6f 1d3do223 1d3eo70 1d3fo72 1d40o74 1d42o77 1d43o61 1d44o250 1d46o1d02 1d47o62
  1d48o64 1d4ao259 1d4bo25b 1d4do67 1d4ev 1d4fo6b 1d50o6d 1d51o14b 1d52o6f 1d53o254 1d54o1d16
  1d56o70 1d57o74 1d59o1d1d 1d5ao26f 1d5bo76 1d5co1d25 1d5do3b2 1d60o3c6 1d62o69 1d63o72 1d64o75
  1d66o3b2 1d68o3c1 1d69o3c6 1d6bv 1d78o43d 1d79v 1d9bo252 1d9co63 1d9do255 1d9eof0 1d9fo25c
  1da0o66 1da1o25f 1da2o261 1da3o265 1da4o268 1da7o1d7b 1da8o29d 1da9o26d 1daao1d85 1dabo29f
  1daco271 1dado270 1daeo272 1db2o278 1db3o282 1db5o1ab 1db6o289 1db8o1d1c 1db9o28b 1dbbo7a
  1dbco290 1dbfo3b8 1dc0v 1e00o1e01 1e01v 1e02o1e03 1e03v 1e04o1e05 1e05v 1e06o1e07 1e07v 1e08o1e09
  1e09v 1e0ao1e0b 1e0bv 1e0co1e0d 1e0dv 1e0eo1e0f 1e0fv 1e10o1e11 1e11v 1e12o1e13 1e13v 1e14o1e15
  1e15v 1e16o1e17 1e17v 1e18o1e19 1e19v 1e1ao1e1b 1e1bv 1e1co1e1d 1e1dv 1e1eo1e1f 1e1fv 1e20o1e21
  1e21v 1e22o1e23 1e23v 1e24o1e25 1e25v 1e26o1e27 1e27v 1e28o1e29 1e29v 1e2ao1e2b 1e2bv 1e2co1e2d
  1e2dv 1e2eo1e2f 1e2fv 1e30o1e31 1e31v 1e32o1e33 1e33v 1e34o1e35 1e35v 1e36o1e37 1e37v 1e38o1e39
  1e39v 1e3ao1e3b 1e3bv 1e3co1e3d 1e3dv 1e3eo1e3f 1e3fv 1e40o1e41 1e41v 1e42o1e43 1e43v 1e44o1e45
  1e45v 1e46o1e47 1e47v 1e48o1e49 1e49v 1e4ao1e4b 1e4bv 1e4co1e4d 1e4dv 1e4eo1e4f 1e4fv 1e50o1e51
  1e51v 1e52o1e53 1e53v 1e54o1e55 1e55v 1e56o1e57 1e57v 1e58o1e59 1e59v 1e5ao1e5b 1e5bv 1e5co1e5d
  1e5dv 1e5eo1e5f 1e5fv 1e60o1e61 1e61v 1e62o1e63 1e63v 1e64o1e65 1e65v 1e66o1e67 1e67v 1e68o1e69
  1e69v 1e6ao1e6b 1e6bv 1e6co1e6d 1e6dv 1e6eo1e6f 1e6fv 1e70o1e71 1e71v 1e72o1e73 1e73v 1e74o1e75
  1e75v 1e76o1e77 1e77v 1e78o1e79 1e79v 1e7ao1e7b 1e7bv 1e7co1e7d 1e7dv 1e7eo1e7f 1e7fv 1e80o1e81
  1e81v 1e82o1e83 1e83v 1e84o1e85 1e85v 1e86o1e87 1e87v 1e88o1e89 1e89v 1e8ao1e8b 1e8bv 1e8co1e8d
  1e8dv 1e8eo1e8f 1e8fv 1e90o1e91 1e91v 1e92o1e93 1e93v 1e94o1e95 1e95v 1e9am61.2be 1e9bo1e61 1e9cv
  1e9eodf 1e9fv 1ea0o1ea1 1ea1v 1ea2o1ea3 1ea3v 1ea4o1ea5 1ea5v 1ea6o1ea7 1ea7v 1ea8o1ea9 1ea9v
  1eaao1eab 1eabv 1eaco1ead 1eadv 1eaeo1eaf 1eafv 1eb0o1eb1 1eb1v 1eb2o1eb3 1eb3v 1eb4o1eb5 1eb5v
  1eb6o1eb7 1eb7v 1eb8o1eb9 1eb9v 1ebao1ebb 1ebbv 1ebco1ebd 1ebdv 1ebeo1ebf 1ebfv 1ec0o1ec1 1ec1v
  1ec2o1ec3 1ec3v 1ec4o1ec5 1ec5v 1ec6o1ec7 1ec7v 1ec8o1ec9 1ec9v 1ecao1ecb 1ecbv 1ecco1ecd 1ecdv
  1eceo1ecf 1ecfv 1ed0o1ed1 1ed1v 1ed2o1ed3 1ed3v 1ed4o1ed5 1ed5v 1ed6o1ed7 1ed7v 1ed8o1ed9 1ed9v
  1edao1edb 1edbv 1edco1edd 1eddv 1edeo1edf 1edfv 1ee0o1ee1 1ee1v 1ee2o1ee3 1ee3v 1ee4o1ee5 1ee5v
  1ee6o1ee7 1ee7v 1ee8o1ee9 1ee9v 1eeao1eeb 1eebv 1eeco1eed 1eedv 1eeeo1eef 1eefv 1ef0o1ef1 1ef1v
  1ef2o1ef3 1ef3v 1ef4o1ef5 1ef5v 1ef6o1ef7 1ef7v 1ef8o1ef9 1ef9v 1efao1efb 1efbv 1efco1efd 1efdv
  1efeo1eff 1effv 1f08o1f00 1f10v 1f16x 1f18o1f10 1f1ex 1f20v 1f28o1f20 1f30v 1f38o1f30 1f40v 1f46x
  1f48o1f40 1f4ex 1f50v 1f58x 1f59o1f51 1f5ax 1f5bo1f53 1f5cx 1f5do1f55 1f5ex 1f5fo1f57 1f60v
  1f68o1f60 1f70v 1f71o3ac 1f72v 1f73o3ad 1f74v 1f75o3ae 1f76v 1f77o3af 1f78v 1f79o3cc 1f7av
  1f7bo3cd 1f7cv 1f7do3ce 1f7ex 1f80m1f00.3b9 1f81m1f01.3b9 1f82m1f02.3b9 1f83m1f03.3b9
  1f84m1f04.3b9 1f85m1f05.3b9 1f86m1f06.3b9 1f87m1f07.3b9 1f88m1f00.3b9 1f89m1f01.3b9 1f8am1f02.3b9
  1f8bm1f03.3b9 1f8cm1f04.3b9 1f8dm1f05.3b9 1f8em1f06.3b9 1f8fm1f07.3b9 1f90m1f20.3b9 1f91m1f21.3b9
  1f92m1f22.3b9 1f93m1f23.3b9 1f94m1f24.3b9 1f95m1f25.3b9 1f96m1f26.3b9 1f97m1f27.3b9 1f98m1f20.3b9
  1f99m1f21.3b9 1f9am1f22.3b9 1f9bm1f23.3b9 1f9cm1f24.3b9 1f9dm1f25.3b9 1f9em1f26.3b9 1f9fm1f27.3b9
  1fa0m1f60.3b9 1fa1m1f61.3b9 1fa2m1f62.3b9 1fa3m1f63.3b9 1fa4m1f64.3b9 1fa5m1f65.3b9 1fa6m1f66.3b9
  1fa7m1f67.3b9 1fa8m1f60.3b9 1fa9m1f61.3b9 1faam1f62.3b9 1fabm1f63.3b9 1facm1f64.3b9 1fadm1f65.3b9
  1faem1f66.3b9 1fafm1f67.3b9 1fb0v 1fb2m1f70.3b9 1fb3m3b1.3b9 1fb4m3ac.3b9 1fb5x 1fb6v
  1fb7m1fb6.3b9 1fb8o1fb0 1fbao1f70 1fbbo3ac 1fbcm3b1.3b9 1fbdm20.313 1fbeo3b9 1fbfm20.313
  1fc0m20.342 1fc1m20.308.342 1fc2m1f74.3b9 1fc3m3b7.3b9 1fc4m3ae.3b9 1fc5x 1fc6v 1fc7m1fc6.3b9
  1fc8o1f72 1fc9o3ad 1fcao1f74 1fcbo3ae 1fccm3b7.3b9 1fcdm20.313.300 1fcem20.313.301
  1fcfm20.313.342 1fd0v 1fd3o390 1fd4x 1fd6v 1fd8o1fd0 1fdao1f76 1fdbo3af 1fdcx 1fddm20.314.300
  1fdem20.314.301 1fdfm20.314.342 1fe0v 1fe3o3b0 1fe4v 1fe8o1fe0 1feao1f7a 1febo3cd 1feco1fe5
  1fedm20.308.300 1feem20.308.301 1fefo60 1ff0x 1ff2m1f7c.3b9 1ff3m3c9.3b9 1ff4m3ce.3b9 1ff5x 1ff6v
  1ff7m1ff6.3b9 1ff8o1f78 1ff9o3cc 1ffao1f7c 1ffbo3ce 1ffcm3c9.3b9 1ffdm20.301 1ffem20.314 1fffx
  2000m20 200bi 200cv 200ex 2010v 2011o2010 2012v 2017m20.333 2018v 2024x 2027v 2028x 202fo20 2030v
  2033m2032.2032 2034m2032.2032.2032 2035v 2036m2035.2035 2037m2035.2035.2035 2038v 203cm21.21
  203dv 203em20.305 203fv 2047m3f.3f 2048m3f.21 2049m21.3f 204av 2057m2032.2032.2032.2032 2058v
  205fo20 2060i 2065x 206ai 2070o30 2071o69 2072x 2074o34 207ao2b 207bo2212 207co3d 207do28 207fo6e
  2080o30 208ao2b 208bo2212 208co3d 208do28 208fm2a 2090o61 2091o65 2092o6f 2093o78 2094o259
  2095o68 2096o6b 209ao70 209bo73 209dm77 209eo79 20a0v 20a8m72.73 20a9v 20c5x 20d0v 20f1x
  2100m61.2f.63 2101m61.2f.73 2102o63 2103mb0.63 2104v 2105m63.2f.6f 2106m63.2f.75 2107o25b 2108v
  2109mb0.66 210ao67 210bm68 210fo127 2110m69 2112m6c 2114v 2115o6e 2116m6e.6f 2117v 2119o70
  211bm72 211ev 2120m73.6d 2121m74.65.6c 2122m74.6d 2123v 2124o7a 2125v 2126o3c9 2127v 2128o7a
  2129v 212ao6b 212boe5 212co62 212ev 212fm65 2131o66 2132o214e 2133o6d 2134o6f 2135o5d0 2139o69
  213av 213bm66.61.78 213co3c0 213dm3b3 213fo3c0 2140o2211 2141v 2145m64 2147o65 2148o69 214av
  2150m31.2044.37 2151m31.2044.39 2152m31.2044.31.30 2153m31.2044.33 2154m32.2044.33
  2155m31.2044.35 2156m32.2044.35 2157m33.2044.35 2158m34.2044.35 2159m31.2044.36 215am35.2044.36
  215bm31.2044.38 215cm33.2044.38 215dm35.2044.38 215em37.2044.38 215fm31.2044 2160o69 2161m69.69
  2162m69.69.69 2163m69.76 2164o76 2165m76.69 2166m76.69.69 2167m76.69.69.69 2168m69.78 2169o78
  216am78.69 216bm78.69.69 216co6c 216do63 216fo6d 2170o69 2171m69.69 2172m69.69.69 2173m69.76
  2174o76 2175m76.69 2176m76.69.69 2177m76.69.69.69 2178m69.78 2179o78 217am78.69 217bm78.69.69
  217co6c 217do63 217fo6d 2180v 2183o2184 2184v 2189m30.2044.33 218av 218cx 2190v 222cm222b.222b
  222dm222b.222b.222b 222ev 222fm222e.222e 2230m222e.222e.222e 2231v 2329o3008 232bv 242ax 2440v
  244bx 2460o31 2469m31.30 246am31.31 246bm31.32 246cm31.33 246dm31.34 246em31.35 246fm31.36
  2470m31.37 2471m31.38 2472m31.39 2473m32.30 2474m28.31.29 2475m28.32.29 2476m28.33.29
  2477m28.34.29 2478m28.35.29 2479m28.36.29 247am28.37.29 247bm28.38.29 247cm28.39.29
  247dm28.31.30.29 247em28.31.31.29 247fm28.31.32.29 2480m28.31.33.29 2481m28.31.34.29
  2482m28.31.35.29 2483m28.31.36.29 2484m28.31.37.29 2485m28.31.38.29 2486m28.31.39.29
  2487m28.32.30.29 2488x 249cm28.61.29 249dm28.62.29 249em28.63.29 249fm28.64.29 24a0m28.65.29
  24a1m28.66.29 24a2m28.67.29 24a3m28.68.29 24a4m28.69.29 24a5m28.6a.29 24a6m28.6b.29 24a7m28.6c.29
  24a8m28.6d.29 24a9m28.6e.29 24aam28.6f.29 24abm28.70.29 24acm28.71.29 24adm28.72.29 24aem28.73.29
  24afm28.74.29 24b0m28.75.29 24b1m28.76.29 24b2m28.77.29 24b3m28.78.29 24b4m28.79.29 24b5m28.7a.29
  24b6o61 24d0o61 24eao30 24ebv 2a0cm222b.222b.222b.222b 2a0dv 2a74m3a.3a.3d 2a75m3d.3d
  2a76m3d.3d.3d 2a77v 2adcm2add.338 2addv 2b74x 2b76v 2c00o2c30 2c30v 2c60o2c61 2c61v 2c62o26b
  2c63o1d7d 2c64o27d 2c65v 2c67o2c68 2c68v 2c69o2c6a 2c6av 2c6bo2c6c 2c6cv 2c6do251 2c6eo271
  2c6fo250 2c70o252 2c71v 2c72o2c73 2c73v 2c75o2c76 2c76v 2c7co6a 2c7do76 2c7eo23f 2c80o2c81 2c81v
  2c82o2c83 2c83v 2c84o2c85 2c85v 2c86o2c87 2c87v 2c88o2c89 2c89v 2c8ao2c8b 2c8bv 2c8co2c8d 2c8dv
  2c8eo2c8f 2c8fv 2c90o2c91 2c91v 2c92o2c93 2c93v 2c94o2c95 2c95v 2c96o2c97 2c97v 2c98o2c99 2c99v
  2c9ao2c9b 2c9bv 2c9co2c9d 2c9dv 2c9eo2c9f 2c9fv 2ca0o2ca1 2ca1v 2ca2o2ca3 2ca3v 2ca4o2ca5 2ca5v
  2ca6o2ca7 2ca7v 2ca8o2ca9 2ca9v 2caao2cab 2cabv 2caco2cad 2cadv 2caeo2caf 2cafv 2cb0o2cb1 2cb1v
  2cb2o2cb3 2cb3v 2cb4o2cb5 2cb5v 2cb6o2cb7 2cb7v 2cb8o2cb9 2cb9v 2cbao2cbb 2cbbv 2cbco2cbd 2cbdv
  2cbeo2cbf 2cbfv 2cc0o2cc1 2cc1v 2cc2o2cc3 2cc3v 2cc4o2cc5 2cc5v 2cc6o2cc7 2cc7v 2cc8o2cc9 2cc9v
  2ccao2ccb 2ccbv 2ccco2ccd 2ccdv 2cceo2ccf 2ccfv 2cd0o2cd1 2cd1v 2cd2o2cd3 2cd3v 2cd4o2cd5 2cd5v
  2cd6o2cd7 2cd7v 2cd8o2cd9 2cd9v 2cdao2cdb 2cdbv 2cdco2cdd 2cddv 2cdeo2cdf 2cdfv 2ce0o2ce1 2ce1v
  2ce2o2ce3 2ce3v 2cebo2cec 2cecv 2cedo2cee 2ceev 2cf2o2cf3 2cf3v 2cf4x 2cf9v 2d26x 2d27v 2d28x
  2d2dv 2d2ex 2d30v 2d68x 2d6fo2d61 2d70v 2d71x 2d7fv 2d97x 2da0v 2da7x 2da8v 2dafx 2db0v 2db7x
  2db8v 2dbfx 2dc0v 2dc7x 2dc8v 2dcfx 2dd0v 2dd7x 2dd8v 2ddfx 2de0v 2e5ex 2e60v 2e64x 2e80v 2e9ax
  2e9bv 2e9fo6bcd 2ea0v 2ef3o9f9f 2ef4x 2f00o4e00 2f01o4e28 2f02o4e36 2f03o4e3f 2f04o4e59 2f05o4e85
  2f06o4e8c 2f07o4ea0 2f08o4eba 2f09o513f 2f0ao5165 2f0bo516b 2f0co5182 2f0do5196 2f0eo51ab
  2f0fo51e0 2f10o51f5 2f11o5200 2f12o529b 2f13o52f9 2f14o5315 2f15o531a 2f16o5338 2f17o5341
  2f18o535c 2f19o5369 2f1ao5382 2f1bo53b6 2f1co53c8 2f1do53e3 2f1eo56d7 2f1fo571f 2f20o58eb
  2f21o5902 2f22o590a 2f23o5915 2f24o5927 2f25o5973 2f26o5b50 2f27o5b80 2f28o5bf8 2f29o5c0f
  2f2ao5c22 2f2bo5c38 2f2co5c6e 2f2do5c71 2f2eo5ddb 2f2fo5de5 2f30o5df1 2f31o5dfe 2f32o5e72
  2f33o5e7a 2f34o5e7f 2f35o5ef4 2f36o5efe 2f37o5f0b 2f38o5f13 2f39o5f50 2f3ao5f61 2f3bo5f73
  2f3co5fc3 2f3do6208 2f3eo6236 2f3fo624b 2f40o652f 2f41o6534 2f42o6587 2f43o6597 2f44o65a4
  2f45o65b9 2f46o65e0 2f47o65e5 2f48o66f0 2f49o6708 2f4ao6728 2f4bo6b20 2f4co6b62 2f4do6b79
  2f4eo6bb3 2f4fo6bcb 2f50o6bd4 2f51o6bdb 2f52o6c0f 2f53o6c14 2f54o6c34 2f55o706b 2f56o722a
  2f57o7236 2f58o723b 2f59o723f 2f5ao7247 2f5bo7259 2f5co725b 2f5do72ac 2f5eo7384 2f5fo7389
  2f60o74dc 2f61o74e6 2f62o7518 2f63o751f 2f64o7528 2f65o7530 2f66o758b 2f67o7592 2f68o7676
  2f69o767d 2f6ao76ae 2f6bo76bf 2f6co76ee 2f6do77db 2f6eo77e2 2f6fo77f3 2f70o793a 2f71o79b8
  2f72o79be 2f73o7a74 2f74o7acb 2f75o7af9 2f76o7c73 2f77o7cf8 2f78o7f36 2f79o7f51 2f7ao7f8a
  2f7bo7fbd 2f7co8001 2f7do800c 2f7eo8012 2f7fo8033 2f80o807f 2f81o8089 2f82o81e3 2f83o81ea
  2f84o81f3 2f85o81fc 2f86o820c 2f87o821b 2f88o821f 2f89o826e 2f8ao8272 2f8bo8278 2f8co864d
  2f8do866b 2f8eo8840 2f8fo884c 2f90o8863 2f91o897e 2f92o898b 2f93o89d2 2f94o8a00 2f95o8c37
  2f96o8c46 2f97o8c55 2f98o8c78 2f99o8c9d 2f9ao8d64 2f9bo8d70 2f9co8db3 2f9do8eab 2f9eo8eca
  2f9fo8f9b 2fa0o8fb0 2fa1o8fb5 2fa2o9091 2fa3o9149 2fa4o91c6 2fa5o91cc 2fa6o91d1 2fa7o9577
  2fa8o9580 2fa9o961c 2faao96b6 2fabo96b9 2faco96e8 2fado9751 2faeo975e 2fafo9762 2fb0o9769
  2fb1o97cb 2fb2o97ed 2fb3o97f3 2fb4o9801 2fb5o98a8 2fb6o98db 2fb7o98df 2fb8o9996 2fb9o9999
  2fbao99ac 2fbbo9aa8 2fbco9ad8 2fbdo9adf 2fbeo9b25 2fbfo9b2f 2fc0o9b32 2fc1o9b3c 2fc2o9b5a
  2fc3o9ce5 2fc4o9e75 2fc5o9e7f 2fc6o9ea5 2fc7o9ebb 2fc8o9ec3 2fc9o9ecd 2fcao9ed1 2fcbo9ef9
  2fcco9efd 2fcdo9f0e 2fceo9f13 2fcfo9f20 2fd0o9f3b 2fd1o9f4a 2fd2o9f52 2fd3o9f8d 2fd4o9f9c
  2fd5o9fa0 2fd6x 3000o20 3001v 3002o2e 3003v 3036o3012 3037v 3038o5341 3039o5344 303bv 3040x 3041v
  3097x 3099v 309bm20.3099 309cm20.309a 309dv 309fm3088.308a 30a0v 30ffm30b3.30c8 3100x 3105v 3130x
  3131o1100 3133o11aa 3134o1102 3135o11ac 3137o1103 313ao11b0 3140o111a 3141o1106 3144o1121
  3145o1109 314fo1161 3164i 3165o1114 3167o11c7 3169o11cc 316ao11ce 316bo11d3 316co11d7 316do11d9
  316eo111c 316fo11dd 3170o11df 3171o111d 3173o1120 3174o1122 3176o1127 3177o1129 3178o112b
  317do1132 317eo1136 317fo1140 3180o1147 3181o114c 3182o11f1 3184o1157 3187o1184 3189o1188
  318ao1191 318co1194 318do119e 318eo11a1 318fx 3190v 3192o4e00 3193o4e8c 3194o4e09 3195o56db
  3196o4e0a 3197o4e2d 3198o4e0b 3199o7532 319ao4e59 319bo4e19 319co4e01 319do5929 319eo5730
  319fo4eba 31a0v 31e6x 31f0v 3200m28.1100.29 3201m28.1102.29 3202m28.1103.29 3203m28.1105.29
  3204m28.1106.29 3205m28.1107.29 3206m28.1109.29 3207m28.110b.29 3208m28.110c.29 3209m28.110e.29
  320am28.110f.29 320bm28.1110.29 320cm28.1111.29 320dm28.1112.29 320em28.ac00.29 320fm28.b098.29
  3210m28.b2e4.29 3211m28.b77c.29 3212m28.b9c8.29 3213m28.bc14.29 3214m28.c0ac.29 3215m28.c544.29
  3216m28.c790.29 3217m28.cc28.29 3218m28.ce74.29 3219m28.d0c0.29 321am28.d30c.29 321bm28.d558.29
  321cm28.c8fc.29 321dm28.c624.c804.29 321em28.c624.d6c4.29 321fx 3220m28.4e00.29 3221m28.4e8c.29
  3222m28.4e09.29 3223m28.56db.29 3224m28.4e94.29 3225m28.516d.29 3226m28.4e03.29 3227m28.516b.29
  3228m28.4e5d.29 3229m28.5341.29 322am28.6708.29 322bm28.706b.29 322cm28.6c34.29 322dm28.6728.29
  322em28.91d1.29 322fm28.571f.29 3230m28.65e5.29 3231m28.682a.29 3232m28.6709.29 3233m28.793e.29
  3234m28.540d.29 3235m28.7279.29 3236m28.8ca1.29 3237m28.795d.29 3238m28.52b4.29 3239m28.4ee3.29
  323am28.547c.29 323bm28.5b66.29 323cm28.76e3.29 323dm28.4f01.29 323em28.8cc7.29 323fm28.5354.29
  3240m28.796d.29 3241m28.4f11.29 3242m28.81ea.29 3243m28.81f3.29 3244o554f 3245o5e7c 3246o6587
  3247o7b8f 3248v 3250m70.74.65 3251m32.31 3252m32.32 3253m32.33 3254m32.34 3255m32.35 3256m32.36
  3257m32.37 3258m32.38 3259m32.39 325am33.30 325bm33.31 325cm33.32 325dm33.33 325em33.34
  325fm33.35 3260o1100 3261o1102 3263o1105 3266o1109 3267o110b 3269o110e 326eoac00 326fob098
  3270ob2e4 3271ob77c 3272ob9c8 3273obc14 3274oc0ac 3275oc544 3276oc790 3277occ28 3278oce74
  3279od0c0 327aod30c 327bod558 327cmcc38.ace0 327dmc8fc.c758 327eoc6b0 327fv 3280o4e00 3281o4e8c
  3282o4e09 3283o56db 3284o4e94 3285o516d 3286o4e03 3287o516b 3288o4e5d 3289o5341 328ao6708
  328bo706b 328co6c34 328do6728 328eo91d1 328fo571f 3290o65e5 3291o682a 3292o6709 3293o793e
  3294o540d 3295o7279 3296o8ca1 3297o795d 3298o52b4 3299o79d8 329ao7537 329bo5973 329co9069
  329do512a 329eo5370 329fo6ce8 32a0o9805 32a1o4f11 32a2o5199 32a3o6b63 32a4o4e0a 32a5o4e2d
  32a6o4e0b 32a7o5de6 32a8o53f3 32a9o533b 32aao5b97 32abo5b66 32aco76e3 32ado4f01 32aeo8cc7
  32afo5354 32b0o591c 32b1m33.36 32b2m33.37 32b3m33.38 32b4m33.39 32b5m34.30 32b6m34.31 32b7m34.32
  32b8m34.33 32b9m34.34 32bam34.35 32bbm34.36 32bcm34.37 32bdm34.38 32bem34.39 32bfm35.30
  32c0m31.6708 32c1m32.6708 32c2m33.6708 32c3m34.6708 32c4m35.6708 32c5m36.6708 32c6m37.6708
  32c7m38.6708 32c8m39.6708 32c9m31.30.6708 32cam31.31.6708 32cbm31.32.6708 32ccm68.67
  32cdm65.72.67 32cem65.76 32cfm6c.74.64 32d0o30a2 32d1o30a4 32d2o30a6 32d3o30a8 32d4o30aa
  32d6o30ad 32d7o30af 32d8o30b1 32d9o30b3 32dao30b5 32dbo30b7 32dco30b9 32ddo30bb 32deo30bd
  32dfo30bf 32e0o30c1 32e1o30c4 32e2o30c6 32e3o30c8 32e4o30ca 32eao30d2 32ebo30d5 32eco30d8
  32edo30db 32eeo30de 32f3o30e4 32f4o30e6 32f5o30e8 32fbo30ef 32ffm4ee4.548c
  3300m30a2.30d1.30fc.30c8 3301m30a2.30eb.30d5.30a1 3302m30a2.30f3.30da.30a2 3303m30a2.30fc.30eb
  3304m30a4.30cb.30f3.30b0 3305m30a4.30f3.30c1 3306m30a6.30a9.30f3 3307m30a8.30b9.30af.30fc.30c9
  3308m30a8.30fc.30ab.30fc 3309m30aa.30f3.30b9 330am30aa.30fc.30e0 330bm30ab.30a4.30ea
  330cm30ab.30e9.30c3.30c8 330dm30ab.30ed.30ea.30fc 330em30ac.30ed.30f3 330fm30ac.30f3.30de
  3310m30ae.30ac 3311m30ae.30cb.30fc 3312m30ad.30e5.30ea.30fc 3313m30ae.30eb.30c0.30fc
  3314m30ad.30ed 3315m30ad.30ed.30b0.30e9.30e0 3316m30ad.30ed.30e1.30fc.30c8.30eb
  3317m30ad.30ed.30ef.30c3.30c8 3318m30b0.30e9.30e0 3319m30b0.30e9.30e0.30c8.30f3
  331am30af.30eb.30bc.30a4.30ed 331bm30af.30ed.30fc.30cd 331cm30b1.30fc.30b9 331dm30b3.30eb.30ca
  331em30b3.30fc.30dd 331fm30b5.30a4.30af.30eb 3320m30b5.30f3.30c1.30fc.30e0
  3321m30b7.30ea.30f3.30b0 3322m30bb.30f3.30c1 3323m30bb.30f3.30c8 3324m30c0.30fc.30b9
  3325m30c7.30b7 3326m30c9.30eb 3327m30c8.30f3 3328m30ca.30ce 3329m30ce.30c3.30c8
  332am30cf.30a4.30c4 332bm30d1.30fc.30bb.30f3.30c8 332cm30d1.30fc.30c4 332dm30d0.30fc.30ec.30eb
  332em30d4.30a2.30b9.30c8.30eb 332fm30d4.30af.30eb 3330m30d4.30b3 3331m30d3.30eb
  3332m30d5.30a1.30e9.30c3.30c9 3333m30d5.30a3.30fc.30c8 3334m30d6.30c3.30b7.30a7.30eb
  3335m30d5.30e9.30f3 3336m30d8.30af.30bf.30fc.30eb 3337m30da.30bd 3338m30da.30cb.30d2
  3339m30d8.30eb.30c4 333am30da.30f3.30b9 333bm30da.30fc.30b8 333cm30d9.30fc.30bf
  333dm30dd.30a4.30f3.30c8 333em30dc.30eb.30c8 333fm30db.30f3 3340m30dd.30f3.30c9
  3341m30db.30fc.30eb 3342m30db.30fc.30f3 3343m30de.30a4.30af.30ed 3344m30de.30a4.30eb
  3345m30de.30c3.30cf 3346m30de.30eb.30af 3347m30de.30f3.30b7.30e7.30f3 3348m30df.30af.30ed.30f3
  3349m30df.30ea 334am30df.30ea.30d0.30fc.30eb 334bm30e1.30ac 334cm30e1.30ac.30c8.30f3
  334dm30e1.30fc.30c8.30eb 334em30e4.30fc.30c9 334fm30e4.30fc.30eb 3350m30e6.30a2.30f3
  3351m30ea.30c3.30c8.30eb 3352m30ea.30e9 3353m30eb.30d4.30fc 3354m30eb.30fc.30d6.30eb
  3355m30ec.30e0 3356m30ec.30f3.30c8.30b2.30f3 3357m30ef.30c3.30c8 3358m30.70b9 3359m31.70b9
  335am32.70b9 335bm33.70b9 335cm34.70b9 335dm35.70b9 335em36.70b9 335fm37.70b9 3360m38.70b9
  3361m39.70b9 3362m31.30.70b9 3363m31.31.70b9 3364m31.32.70b9 3365m31.33.70b9 3366m31.34.70b9
  3367m31.35.70b9 3368m31.36.70b9 3369m31.37.70b9 336am31.38.70b9 336bm31.39.70b9 336cm32.30.70b9
  336dm32.31.70b9 336em32.32.70b9 336fm32.33.70b9 3370m32.34.70b9 3371m68.70.61 3372m64.61
  3373m61.75 3374m62.61.72 3375m6f.76 3376m70.63 3377m64.6d 3378m64.6d.32 3379m64.6d.33 337am69.75
  337bm5e73.6210 337cm662d.548c 337dm5927.6b63 337em660e.6cbb 337fm682a.5f0f.4f1a.793e 3380m70.61
  3381m6e.61 3382m3bc.61 3383m6d.61 3384m6b.61 3385m6b.62 3386m6d.62 3387m67.62 3388m63.61.6c
  3389m6b.63.61.6c 338am70.66 338bm6e.66 338cm3bc.66 338dm3bc.67 338em6d.67 338fm6b.67 3390m68.7a
  3391m6b.68.7a 3392m6d.68.7a 3393m67.68.7a 3394m74.68.7a 3395m3bc.6c 3396m6d.6c 3397m64.6c
  3398m6b.6c 3399m66.6d 339am6e.6d 339bm3bc.6d 339cm6d.6d 339dm63.6d 339em6b.6d 339fm6d.6d.32
  33a0m63.6d.32 33a1m6d.32 33a2m6b.6d.32 33a3m6d.6d.33 33a4m63.6d.33 33a5m6d.33 33a6m6b.6d.33
  33a7m6d.2215.73 33a8m6d.2215.73.32 33a9m70.61 33aam6b.70.61 33abm6d.70.61 33acm67.70.61
  33adm72.61.64 33aem72.61.64.2215.73 33afm72.61.64.2215.73.32 33b0m70.73 33b1m6e.73 33b2m3bc.73
  33b3m6d.73 33b4m70.76 33b5m6e.76 33b6m3bc.76 33b7m6d.76 33b8m6b.76 33b9m6d.76 33bam70.77
  33bbm6e.77 33bcm3bc.77 33bdm6d.77 33bem6b.77 33bfm6d.77 33c0m6b.3c9 33c1m6d.3c9 33c2x 33c3m62.71
  33c4m63.63 33c5m63.64 33c6m63.2215.6b.67 33c7x 33c8m64.62 33c9m67.79 33cam68.61 33cbm68.70
  33ccm69.6e 33cdm6b.6b 33cem6b.6d 33cfm6b.74 33d0m6c.6d 33d1m6c.6e 33d2m6c.6f.67 33d3m6c.78
  33d4m6d.62 33d5m6d.69.6c 33d6m6d.6f.6c 33d7m70.68 33d8x 33d9m70.70.6d 33dam70.72 33dbm73.72
  33dcm73.76 33ddm77.62 33dem76.2215.6d 33dfm61.2215.6d 33e0m31.65e5 33e1m32.65e5 33e2m33.65e5
  33e3m34.65e5 33e4m35.65e5 33e5m36.65e5 33e6m37.65e5 33e7m38.65e5 33e8m39.65e5 33e9m31.30.65e5
  33eam31.31.65e5 33ebm31.32.65e5 33ecm31.33.65e5 33edm31.34.65e5 33eem31.35.65e5 33efm31.36.65e5
  33f0m31.37.65e5 33f1m31.38.65e5 33f2m31.39.65e5 33f3m32.30.65e5 33f4m32.31.65e5 33f5m32.32.65e5
  33f6m32.33.65e5 33f7m32.34.65e5 33f8m32.35.65e5 33f9m32.36.65e5 33fam32.37.65e5 33fbm32.38.65e5
  33fcm32.39.65e5 33fdm33.30.65e5 33fem33.31.65e5 33ffm67.61.6c 3400v a48dx a490v a4c7x a4d0v a62cx
  a640oa641 a641v a642oa643 a643v a644oa645 a645v a646oa647 a647v a648oa649 a649v a64aoa64b a64bv
  a64coa64d a64dv a64eoa64f a64fv a650oa651 a651v a652oa653 a653v a654oa655 a655v a656oa657 a657v
  a658oa659 a659v a65aoa65b a65bv a65coa65d a65dv a65eoa65f a65fv a660oa661 a661v a662oa663 a663v
  a664oa665 a665v a666oa667 a667v a668oa669 a669v a66aoa66b a66bv a66coa66d a66dv a680oa681 a681v
  a682oa683 a683v a684oa685 a685v a686oa687 a687v a688oa689 a689v a68aoa68b a68bv a68coa68d a68dv
  a68eoa68f a68fv a690oa691 a691v a692oa693 a693v a694oa695 a695v a696oa697 a697v a698oa699 a699v
  a69aoa69b a69bv a69co44a a69do44c a69ev a6f8x a700v a722oa723 a723v a724oa725 a725v a726oa727
  a727v a728oa729 a729v a72aoa72b a72bv a72coa72d a72dv a72eoa72f a72fv a732oa733 a733v a734oa735
  a735v a736oa737 a737v a738oa739 a739v a73aoa73b a73bv a73coa73d a73dv a73eoa73f a73fv a740oa741
  a741v a742oa743 a743v a744oa745 a745v a746oa747 a747v a748oa749 a749v a74aoa74b a74bv a74coa74d
  a74dv a74eoa74f a74fv a750oa751 a751v a752oa753 a753v a754oa755 a755v a756oa757 a757v a758oa759
  a759v a75aoa75b a75bv a75coa75d a75dv a75eoa75f a75fv a760oa761 a761v a762oa763 a763v a764oa765
  a765v a766oa767 a767v a768oa769 a769v a76aoa76b a76bv a76coa76d a76dv a76eoa76f a76fv a770oa76f
  a771v a779oa77a a77av a77boa77c a77cv a77do1d79 a77eoa77f a77fv a780oa781 a781v a782oa783 a783v
  a784oa785 a785v a786oa787 a787v a78boa78c a78cv a78do265 a78ev a790oa791 a791v a792oa793 a793v
  a796oa797 a797v a798oa799 a799v a79aoa79b a79bv a79coa79d a79dv a79eoa79f a79fv a7a0oa7a1 a7a1v
  a7a2oa7a3 a7a3v a7a4oa7a5 a7a5v a7a6oa7a7 a7a7v a7a8oa7a9 a7a9v a7aao266 a7abo25c a7aco261
  a7ado26c a7aeo26a a7afv a7b0o29e a7b1o287 a7b2o29d a7b3oab53 a7b4oa7b5 a7b5v a7b6oa7b7 a7b7v
  a7b8oa7b9 a7b9v a7baoa7bb a7bbv a7bcoa7bd a7bdv a7beoa7bf a7bfv a7c0oa7c1 a7c1v a7c2oa7c3 a7c3v
  a7c4oa794 a7c5o282 a7c6o1d8e a7c7oa7c8 a7c8v a7c9oa7ca a7cav a7cbo264 a7ccoa7cd a7cdv a7ceoa7cf
  a7cfv a7d0oa7d1 a7d1v a7d2oa7d3 a7d3v a7d4oa7d5 a7d5v a7d6oa7d7 a7d7v a7d8oa7d9 a7d9v a7daoa7db
  a7dbv a7dco19b a7ddm278 a7dex a7f1o73 a7f2o63 a7f3o66 a7f4o71 a7f5oa7f6 a7f6v a7f8o127 a7f9o153
  a7fav a82dx a830v a83ax a840v a878x a880v a8c6x a8cev a8dax a8e0v a954x a95fv a97dx a980v a9cex
  a9cfv a9dax a9dev a9ffx aa00v aa37x aa40v aa4ex aa50v aa5ax aa5cv aac3x aadbv aaf7x ab01v ab07x
  ab09v ab0fx ab11v ab17x ab20v ab27x ab28v ab2fx ab30v ab5coa727 ab5doab37 ab5eo26b ab5foab52
  ab60v ab69o28d ab6av ab6co1df1d ab6ex ab70o13a0 abc0v abeex abf0v abfax ac00v d7a4x d7b0v d7c7x
  d7cbv d7fcx f900o8c48 f901o66f4 f902o8eca f903o8cc8 f904o6ed1 f905o4e32 f906o53e5 f907m9f9c
  f909o5951 f90ao91d1 f90bo5587 f90co5948 f90do61f6 f90eo7669 f90fo7f85 f910o863f f911o87ba
  f912o88f8 f913o908f f914o6a02 f915o6d1b f916o70d9 f917o73de f918o843d f919o916a f91ao99f1
  f91bo4e82 f91co5375 f91do6b04 f91eo721b f91fo862d f920o9e1e f921o5d50 f922o6feb f923o85cd
  f924o8964 f925o62c9 f926o81d8 f927o881f f928o5eca f929o6717 f92ao6d6a f92bo72fc f92co90ce
  f92do4f86 f92eo51b7 f92fo52de f930o64c4 f931o6ad3 f932o7210 f933o76e7 f934o8001 f935o8606
  f936o865c f937o8def f938o9732 f939o9b6f f93ao9dfa f93bo788c f93co797f f93do7da0 f93eo83c9
  f93fo9304 f940o9e7f f941o8ad6 f942o58df f943o5f04 f944o7c60 f945o807e f946o7262 f947o78ca
  f948o8cc2 f949o96f7 f94ao58d8 f94bo5c62 f94co6a13 f94do6dda f94eo6f0f f94fo7d2f f950o7e37
  f951o964b f952o52d2 f953o808b f954o51dc f955o51cc f956o7a1c f957o7dbe f958o83f1 f959o9675
  f95ao8b80 f95bo62cf f95co6a02 f95do8afe f95eo4e39 f95fo5be7 f960o6012 f961o7387 f962o7570
  f963o5317 f964o78fb f965o4fbf f966o5fa9 f967o4e0d f968o6ccc f969o6578 f96ao7d22 f96bo53c3
  f96co585e f96do7701 f96eo8449 f96fo8aaa f970o6bba f971o8fb0 f972o6c88 f973o62fe f974o82e5
  f975o63a0 f976o7565 f977o4eae f978o5169 f979o51c9 f97ao6881 f97bo7ce7 f97co826f f97do8ad2
  f97eo91cf f97fo52f5 f980o5442 f981o5973 f982o5eec f983o65c5 f984o6ffe f985o792a f986o95ad
  f987o9a6a f988o9e97 f989o9ece f98ao529b f98bo66c6 f98co6b77 f98do8f62 f98eo5e74 f98fo6190
  f990o6200 f991o649a f992o6f23 f993o7149 f994o7489 f995o79ca f996o7df4 f997o806f f998o8f26
  f999o84ee f99ao9023 f99bo934a f99co5217 f99do52a3 f99eo54bd f99fo70c8 f9a0o88c2 f9a1o8aaa
  f9a2o5ec9 f9a3o5ff5 f9a4o637b f9a5o6bae f9a6o7c3e f9a7o7375 f9a8o4ee4 f9a9o56f9 f9aao5be7
  f9abo5dba f9aco601c f9ado73b2 f9aeo7469 f9afo7f9a f9b0o8046 f9b1o9234 f9b2o96f6 f9b3o9748
  f9b4o9818 f9b5o4f8b f9b6o79ae f9b7o91b4 f9b8o96b8 f9b9o60e1 f9bao4e86 f9bbo50da f9bco5bee
  f9bdo5c3f f9beo6599 f9bfo6a02 f9c0o71ce f9c1o7642 f9c2o84fc f9c3o907c f9c4o9f8d f9c5o6688
  f9c6o962e f9c7o5289 f9c8o677b f9c9o67f3 f9cao6d41 f9cbo6e9c f9cco7409 f9cdo7559 f9ceo786b
  f9cfo7d10 f9d0o985e f9d1o516d f9d2o622e f9d3o9678 f9d4o502b f9d5o5d19 f9d6o6dea f9d7o8f2a
  f9d8o5f8b f9d9o6144 f9dao6817 f9dbo7387 f9dco9686 f9ddo5229 f9deo540f f9dfo5c65 f9e0o6613
  f9e1o674e f9e2o68a8 f9e3o6ce5 f9e4o7406 f9e5o75e2 f9e6o7f79 f9e7o88cf f9e8o88e1 f9e9o91cc
  f9eao96e2 f9ebo533f f9eco6eba f9edo541d f9eeo71d0 f9efo7498 f9f0o85fa f9f1o96a3 f9f2o9c57
  f9f3o9e9f f9f4o6797 f9f5o6dcb f9f6o81e8 f9f7o7acb f9f8o7b20 f9f9o7c92 f9fao72c0 f9fbo7099
  f9fco8b58 f9fdo4ec0 f9feo8336 f9ffo523a fa00o5207 fa01o5ea6 fa02o62d3 fa03o7cd6 fa04o5b85
  fa05o6d1e fa06o66b4 fa07o8f3b fa08o884c fa09o964d fa0ao898b fa0bo5ed3 fa0co5140 fa0do55c0 fa0ev
  fa10o585a fa11v fa12o6674 fa13v fa15o51de fa16o732a fa17o76ca fa18o793c fa19o795e fa1ao7965
  fa1bo798f fa1co9756 fa1do7cbe fa1eo7fbd fa1fv fa20o8612 fa21v fa22o8af8 fa23v fa25o9038 fa26o90fd
  fa27v fa2ao98ef fa2bo98fc fa2co9928 fa2do9db4 fa2eo90de fa2fo96b7 fa30o4fae fa31o50e7 fa32o514d
  fa33o52c9 fa34o52e4 fa35o5351 fa36o559d fa37o5606 fa38o5668 fa39o5840 fa3ao58a8 fa3bo5c64
  fa3co5c6e fa3do6094 fa3eo6168 fa3fo618e fa40o61f2 fa41o654f fa42o65e2 fa43o6691 fa44o6885
  fa45o6d77 fa46o6e1a fa47o6f22 fa48o716e fa49o722b fa4ao7422 fa4bo7891 fa4co793e fa4do7949
  fa4eo7948 fa4fo7950 fa50o7956 fa51o795d fa52o798d fa54o7a40 fa55o7a81 fa56o7bc0 fa57o7df4
  fa58o7e09 fa59o7e41 fa5ao7f72 fa5bo8005 fa5co81ed fa5dm8279 fa5fo8457 fa60o8910 fa61o8996
  fa62o8b01 fa63o8b39 fa64o8cd3 fa65o8d08 fa66o8fb6 fa67o9038 fa68o96e3 fa69o97ff fa6ao983b
  fa6bo6075 fa6co242ee fa6do8218 fa6ex fa70o4e26 fa71o51b5 fa72o5168 fa73o4f80 fa74o5145 fa75o5180
  fa76o52c7 fa77o52fa fa78o559d fa79o5555 fa7ao5599 fa7bo55e2 fa7co585a fa7do58b3 fa7eo5944
  fa7fo5954 fa80o5a62 fa81o5b28 fa82o5ed2 fa83o5ed9 fa84o5f69 fa85o5fad fa86o60d8 fa87o614e
  fa88o6108 fa89o618e fa8ao6160 fa8bo61f2 fa8co6234 fa8do63c4 fa8eo641c fa8fo6452 fa90o6556
  fa91o6674 fa92o6717 fa93o671b fa94o6756 fa95o6b79 fa96o6bba fa97o6d41 fa98o6edb fa99o6ecb
  fa9ao6f22 fa9bo701e fa9co716e fa9do77a7 fa9eo7235 fa9fo72af faa0o732a faa1o7471 faa2o7506
  faa3o753b faa4o761d faa5o761f faa6o76ca faa7o76db faa8o76f4 faa9o774a faaao7740 faabo78cc
  faaco7ab1 faado7bc0 faaeo7c7b faafo7d5b fab0o7df4 fab1o7f3e fab2o8005 fab3o8352 fab4o83ef
  fab5o8779 fab6o8941 fab7o8986 fab8o8996 fab9o8abf fabao8af8 fabbo8acb fabco8b01 fabdo8afe
  fabeo8aed fabfo8b39 fac0o8b8a fac1o8d08 fac2o8f38 fac3o9072 fac4o9199 fac5o9276 fac6o967c
  fac7o96e3 fac8o9756 fac9o97db facao97ff facbo980b facco983b facdo9b12 faceo9f9c facfo2284a
  fad0o22844 fad1o233d5 fad2o3b9d fad3o4018 fad4o4039 fad5o25249 fad6o25cd0 fad7o27ed3 fad8o9f43
  fad9o9f8e fadax fb00m66.66 fb01m66.69 fb02m66.6c fb03m66.66.69 fb04m66.66.6c fb05m73.74 fb07x
  fb13m574.576 fb14m574.565 fb15m574.56b fb16m57e.576 fb17m574.56d fb18x fb1dm5d9.5b4 fb1ev
  fb1fm5f2.5b7 fb20o5e2 fb21o5d0 fb22o5d3 fb24o5db fb27o5e8 fb28o5ea fb29o2b fb2am5e9.5c1
  fb2bm5e9.5c2 fb2cm5e9.5bc.5c1 fb2dm5e9.5bc.5c2 fb2em5d0.5b7 fb2fm5d0.5b8 fb30m5d0.5bc
  fb31m5d1.5bc fb32m5d2.5bc fb33m5d3.5bc fb34m5d4.5bc fb35m5d5.5bc fb36m5d6.5bc fb37x fb38m5d8.5bc
  fb39m5d9.5bc fb3am5da.5bc fb3bm5db.5bc fb3cm5dc.5bc fb3dx fb3em5de.5bc fb3fx fb40m5e0.5bc
  fb41m5e1.5bc fb42x fb43m5e3.5bc fb44m5e4.5bc fb45x fb46m5e6.5bc fb47m5e7.5bc fb48m5e8.5bc
  fb49m5e9.5bc fb4am5ea.5bc fb4bm5d5.5b9 fb4cm5d1.5bf fb4dm5db.5bf fb4em5e4.5bf fb4fm5d0.5dc
  fb50m671 fb52m67b fb56m67e fb5am680 fb5em67a fb62m67f fb66m679 fb6am6a4 fb6em6a6 fb72m684
  fb76m683 fb7am686 fb7em687 fb82m68d fb84m68c fb86m68e fb88m688 fb8am698 fb8cm691 fb8em6a9
  fb92m6af fb96m6b3 fb9am6b1 fb9em6ba fba0m6bb fba4m6c0 fba6m6c1 fbaam6be fbaem6d2 fbb0m6d3 fbb2v
  fbd3m6ad fbd7m6c7 fbd9m6c6 fbdbm6c8 fbddm6c7.674 fbdem6cb fbe0m6c5 fbe2m6c9 fbe4m6d0 fbe8m649
  fbeam626.627 fbecm626.6d5 fbeem626.648 fbf0m626.6c7 fbf2m626.6c6 fbf4m626.6c8 fbf6m626.6d0
  fbf9m626.649 fbfcm6cc fc00m626.62c fc01m626.62d fc02m626.645 fc03m626.649 fc04m626.64a
  fc05m628.62c fc06m628.62d fc07m628.62e fc08m628.645 fc09m628.649 fc0am628.64a fc0bm62a.62c
  fc0cm62a.62d fc0dm62a.62e fc0em62a.645 fc0fm62a.649 fc10m62a.64a fc11m62b.62c fc12m62b.645
  fc13m62b.649 fc14m62b.64a fc15m62c.62d fc16m62c.645 fc17m62d.62c fc18m62d.645 fc19m62e.62c
  fc1am62e.62d fc1bm62e.645 fc1cm633.62c fc1dm633.62d fc1em633.62e fc1fm633.645 fc20m635.62d
  fc21m635.645 fc22m636.62c fc23m636.62d fc24m636.62e fc25m636.645 fc26m637.62d fc27m637.645
  fc28m638.645 fc29m639.62c fc2am639.645 fc2bm63a.62c fc2cm63a.645 fc2dm641.62c fc2em641.62d
  fc2fm641.62e fc30m641.645 fc31m641.649 fc32m641.64a fc33m642.62d fc34m642.645 fc35m642.649
  fc36m642.64a fc37m643.627 fc38m643.62c fc39m643.62d fc3am643.62e fc3bm643.644 fc3cm643.645
  fc3dm643.649 fc3em643.64a fc3fm644.62c fc40m644.62d fc41m644.62e fc42m644.645 fc43m644.649
  fc44m644.64a fc45m645.62c fc46m645.62d fc47m645.62e fc48m645.645 fc49m645.649 fc4am645.64a
  fc4bm646.62c fc4cm646.62d fc4dm646.62e fc4em646.645 fc4fm646.649 fc50m646.64a fc51m647.62c
  fc52m647.645 fc53m647.649 fc54m647.64a fc55m64a.62c fc56m64a.62d fc57m64a.62e fc58m64a.645
  fc59m64a.649 fc5am64a.64a fc5bm630.670 fc5cm631.670 fc5dm649.670 fc5em20.64c.651 fc5fm20.64d.651
  fc60m20.64e.651 fc61m20.64f.651 fc62m20.650.651 fc63m20.651.670 fc64m626.631 fc65m626.632
  fc66m626.645 fc67m626.646 fc68m626.649 fc69m626.64a fc6am628.631 fc6bm628.632 fc6cm628.645
  fc6dm628.646 fc6em628.649 fc6fm628.64a fc70m62a.631 fc71m62a.632 fc72m62a.645 fc73m62a.646
  fc74m62a.649 fc75m62a.64a fc76m62b.631 fc77m62b.632 fc78m62b.645 fc79m62b.646 fc7am62b.649
  fc7bm62b.64a fc7cm641.649 fc7dm641.64a fc7em642.649 fc7fm642.64a fc80m643.627 fc81m643.644
  fc82m643.645 fc83m643.649 fc84m643.64a fc85m644.645 fc86m644.649 fc87m644.64a fc88m645.627
  fc89m645.645 fc8am646.631 fc8bm646.632 fc8cm646.645 fc8dm646.646 fc8em646.649 fc8fm646.64a
  fc90m649.670 fc91m64a.631 fc92m64a.632 fc93m64a.645 fc94m64a.646 fc95m64a.649 fc96m64a.64a
  fc97m626.62c fc98m626.62d fc99m626.62e fc9am626.645 fc9bm626.647 fc9cm628.62c fc9dm628.62d
  fc9em628.62e fc9fm628.645 fca0m628.647 fca1m62a.62c fca2m62a.62d fca3m62a.62e fca4m62a.645
  fca5m62a.647 fca6m62b.645 fca7m62c.62d fca8m62c.645 fca9m62d.62c fcaam62d.645 fcabm62e.62c
  fcacm62e.645 fcadm633.62c fcaem633.62d fcafm633.62e fcb0m633.645 fcb1m635.62d fcb2m635.62e
  fcb3m635.645 fcb4m636.62c fcb5m636.62d fcb6m636.62e fcb7m636.645 fcb8m637.62d fcb9m638.645
  fcbam639.62c fcbbm639.645 fcbcm63a.62c fcbdm63a.645 fcbem641.62c fcbfm641.62d fcc0m641.62e
  fcc1m641.645 fcc2m642.62d fcc3m642.645 fcc4m643.62c fcc5m643.62d fcc6m643.62e fcc7m643.644
  fcc8m643.645 fcc9m644.62c fccam644.62d fccbm644.62e fcccm644.645 fccdm644.647 fccem645.62c
  fccfm645.62d fcd0m645.62e fcd1m645.645 fcd2m646.62c fcd3m646.62d fcd4m646.62e fcd5m646.645
  fcd6m646.647 fcd7m647.62c fcd8m647.645 fcd9m647.670 fcdam64a.62c fcdbm64a.62d fcdcm64a.62e
  fcddm64a.645 fcdem64a.647 fcdfm626.645 fce0m626.647 fce1m628.645 fce2m628.647 fce3m62a.645
  fce4m62a.647 fce5m62b.645 fce6m62b.647 fce7m633.645 fce8m633.647 fce9m634.645 fceam634.647
  fcebm643.644 fcecm643.645 fcedm644.645 fceem646.645 fcefm646.647 fcf0m64a.645 fcf1m64a.647
  fcf2m640.64e.651 fcf3m640.64f.651 fcf4m640.650.651 fcf5m637.649 fcf6m637.64a fcf7m639.649
  fcf8m639.64a fcf9m63a.649 fcfam63a.64a fcfbm633.649 fcfcm633.64a fcfdm634.649 fcfem634.64a
  fcffm62d.649 fd00m62d.64a fd01m62c.649 fd02m62c.64a fd03m62e.649 fd04m62e.64a fd05m635.649
  fd06m635.64a fd07m636.649 fd08m636.64a fd09m634.62c fd0am634.62d fd0bm634.62e fd0cm634.645
  fd0dm634.631 fd0em633.631 fd0fm635.631 fd10m636.631 fd11m637.649 fd12m637.64a fd13m639.649
  fd14m639.64a fd15m63a.649 fd16m63a.64a fd17m633.649 fd18m633.64a fd19m634.649 fd1am634.64a
  fd1bm62d.649 fd1cm62d.64a fd1dm62c.649 fd1em62c.64a fd1fm62e.649 fd20m62e.64a fd21m635.649
  fd22m635.64a fd23m636.649 fd24m636.64a fd25m634.62c fd26m634.62d fd27m634.62e fd28m634.645
  fd29m634.631 fd2am633.631 fd2bm635.631 fd2cm636.631 fd2dm634.62c fd2em634.62d fd2fm634.62e
  fd30m634.645 fd31m633.647 fd32m634.647 fd33m637.645 fd34m633.62c fd35m633.62d fd36m633.62e
  fd37m634.62c fd38m634.62d fd39m634.62e fd3am637.645 fd3bm638.645 fd3cm627.64b fd3ev
  fd50m62a.62c.645 fd51m62a.62d.62c fd53m62a.62d.645 fd54m62a.62e.645 fd55m62a.645.62c
  fd56m62a.645.62d fd57m62a.645.62e fd58m62c.645.62d fd5am62d.645.64a fd5bm62d.645.649
  fd5cm633.62d.62c fd5dm633.62c.62d fd5em633.62c.649 fd5fm633.645.62d fd61m633.645.62c
  fd62m633.645.645 fd64m635.62d.62d fd66m635.645.645 fd67m634.62d.645 fd69m634.62c.64a
  fd6am634.645.62e fd6cm634.645.645 fd6em636.62d.649 fd6fm636.62e.645 fd71m637.645.62d
  fd73m637.645.645 fd74m637.645.64a fd75m639.62c.645 fd76m639.645.645 fd78m639.645.649
  fd79m63a.645.645 fd7am63a.645.64a fd7bm63a.645.649 fd7cm641.62e.645 fd7em642.645.62d
  fd7fm642.645.645 fd80m644.62d.645 fd81m644.62d.64a fd82m644.62d.649 fd83m644.62c.62c
  fd85m644.62e.645 fd87m644.645.62d fd89m645.62d.62c fd8am645.62d.645 fd8bm645.62d.64a
  fd8cm645.62c.62d fd8dm645.62c.645 fd8em645.62e.62c fd8fm645.62e.645 fd90v fd92m645.62c.62e
  fd93m647.645.62c fd94m647.645.645 fd95m646.62d.645 fd96m646.62d.649 fd97m646.62c.645
  fd99m646.62c.649 fd9am646.645.64a fd9bm646.645.649 fd9cm64a.645.645 fd9em628.62e.64a
  fd9fm62a.62c.64a fda0m62a.62c.649 fda1m62a.62e.64a fda2m62a.62e.649 fda3m62a.645.64a
  fda4m62a.645.649 fda5m62c.645.64a fda6m62c.62d.649 fda7m62c.645.649 fda8m633.62e.649
  fda9m635.62d.64a fdaam634.62d.64a fdabm636.62d.64a fdacm644.62c.64a fdadm644.645.64a
  fdaem64a.62d.64a fdafm64a.62c.64a fdb0m64a.645.64a fdb1m645.645.64a fdb2m642.645.64a
  fdb3m646.62d.64a fdb4m642.645.62d fdb5m644.62d.645 fdb6m639.645.64a fdb7m643.645.64a
  fdb8m646.62c.62d fdb9m645.62e.64a fdbam644.62c.645 fdbbm643.645.645 fdbcm644.62c.645
  fdbdm646.62c.62d fdbem62c.62d.64a fdbfm62d.62c.64a fdc0m645.62c.64a fdc1m641.645.64a
  fdc2m628.62d.64a fdc3m643.645.645 fdc4m639.62c.645 fdc5m635.645.645 fdc6m633.62e.64a
  fdc7m646.62c.64a fdc8v fdd0x fdf0m635.644.6d2 fdf1m642.644.6d2 fdf2m627.644.644.647
  fdf3m627.643.628.631 fdf4m645.62d.645.62f fdf5m635.644.639.645 fdf6m631.633.648.644
  fdf7m639.644.64a.647 fdf8m648.633.644.645 fdf9m635.644.649
  fdfam635.644.649.20.627.644.644.647.20.639.644.64a.647.20.648.633.644.645
  fdfbm62c.644.20.62c.644.627.644.647 fdfcm631.6cc.627.644 fdfdv fe00i fe10o2c fe11o3001 fe12x
  fe13o3a fe15o21 fe16o3f fe17o3016 fe19x fe20v fe30x fe31o2014 fe32o2013 fe33m5f fe35o28 fe37o7b
  fe38o7d fe39o3014 fe3bo3010 fe3do300a fe3fo3008 fe41o300c fe45v fe47o5b fe48o5d fe49m20.305
  fe4dm5f fe50o2c fe51o3001 fe52x fe54o3b fe55o3a fe56o3f fe57o21 fe58o2014 fe59o28 fe5bo7b fe5co7d
  fe5do3014 fe5fo23 fe60o26 fe61o2a fe63o2d fe64o3c fe65o3e fe66o3d fe67x fe68o5c fe69o24 fe6bo40
  fe6cx fe70m20.64b fe71m640.64b fe72m20.64c fe73v fe74m20.64d fe75x fe76m20.64e fe77m640.64e
  fe78m20.64f fe79m640.64f fe7am20.650 fe7bm640.650 fe7cm20.651 fe7dm640.651 fe7em20.652
  fe7fm640.652 fe80o621 fe81m622 fe83m623 fe85m624 fe87m625 fe89m626 fe8dm627 fe8fm628 fe93m629
  fe95m62a fe99m62b fe9dm62c fea1m62d fea5m62e fea9m62f feabm630 feadm631 feafm632 feb1m633
  feb5m634 feb9m635 febdm636 fec1m637 fec5m638 fec9m639 fecdm63a fed1m641 fed5m642 fed9m643
  feddm644 fee1m645 fee5m646 fee9m647 feedm648 feefm649 fef1m64a fef5m644.622 fef7m644.623
  fef9m644.625 fefbm644.627 fefdx feffi ff00x ff01o21 ff21o61 ff3bo5b ff5fo2985 ff61o2e ff62o300c
  ff64o3001 ff65o30fb ff66o30f2 ff67o30a1 ff68o30a3 ff69o30a5 ff6ao30a7 ff6bo30a9 ff6co30e3
  ff6do30e5 ff6eo30e7 ff6fo30c3 ff70o30fc ff71o30a2 ff72o30a4 ff73o30a6 ff74o30a8 ff75o30aa
  ff77o30ad ff78o30af ff79o30b1 ff7ao30b3 ff7bo30b5 ff7co30b7 ff7do30b9 ff7eo30bb ff7fo30bd
  ff80o30bf ff81o30c1 ff82o30c4 ff83o30c6 ff84o30c8 ff85o30ca ff8bo30d2 ff8co30d5 ff8do30d8
  ff8eo30db ff8fo30de ff94o30e4 ff95o30e6 ff96o30e8 ff9co30ef ff9do30f3 ff9eo3099 ffa0i ffa1o1100
  ffa3o11aa ffa4o1102 ffa5o11ac ffa7o1103 ffaao11b0 ffb0o111a ffb1o1106 ffb4o1121 ffb5o1109 ffbfx
  ffc2o1161 ffc8x ffcao1167 ffd0x ffd2o116d ffd8x ffdao1173 ffddx ffe0oa2 ffe2oac ffe3m20.304
  ffe4oa6 ffe5oa5 ffe6o20a9 ffe7x ffe8o2502 ffe9o2190 ffedo25a0 ffeeo25cb ffefx 10000v 1000cx
  1000dv 10027x 10028v 1003bx 1003cv 1003ex 1003fv 1004ex 10050v 1005ex 10080v 100fbx 10100v 10103x
  10107v 10134x 10137v 1018fx 10190v 1019dx 101a0v 101a1x 101d0v 101fex 10280v 1029dx 102a0v 102d1x
  102e0v 102fcx 10300v 10324x 1032dv 1034bx 10350v 1037bx 10380v 1039ex 1039fv 103c4x 103c8v 103d6x
  10400o10428 10428v 1049ex 104a0v 104aax 104b0o104d8 104d4x 104d8v 104fcx 10500v 10528x 10530v
  10564x 1056fv 10570o10597 1057bx 1057co105a3 1058bx 1058co105b3 10593x 10594o105bb 10596x 10597v
  105a2x 105a3v 105b2x 105b3v 105bax 105bbv 105bdx 105c0v 105f4x 10600v 10737x 10740v 10756x 10760v
  10768x 10780v 10781o2d0 10783oe6 10784o299 10785o253 10786x 10787o2a3 10788oab66 10789o2a5
  1078ao2a4 1078bo256 1078do1d91 1078eo258 1078fo25e 10790o2a9 10791o264 10792o262 10793o260
  10794o29b 10795o127 10796o29c 10797o267 10798o284 10799o2aa 1079bo26c 1079co1df04 1079doa78e
  1079eo26e 1079fo1df05 107a0o28e 107a1o1df06 107a2of8 107a3o276 107a5o71 107a6o27a 107a7o1df08
  107a8o27d 107aao280 107abo2a8 107aco2a6 107adoab67 107aeo2a7 107afo288 107b0o2c71 107b1x
  107b2o28f 107b3o2a1 107b5o298 107b6o1c0 107b9o1df0a 107bao1df1e 107bbo1df25 107c0x 10800v 10806x
  10808v 10809x 1080av 10836x 10837v 10839x 1083cv 1083dx 1083fv 10856x 10857v 1089fx 108a7v 108b0x
  108e0v 108f3x 108f4v 108f6x 108fbv 1091cx 1091fv 1093ax 1093fv 1095ax 10980v 109b8x 109bcv 109d0x
  109d2v 10a04x 10a05v 10a07x 10a0cv 10a14x 10a15v 10a18x 10a19v 10a36x 10a38v 10a3bx 10a3fv 10a49x
  10a50v 10a59x 10a60v 10aa0x 10ac0v 10ae7x 10aebv 10af7x 10b00v 10b36x 10b39v 10b56x 10b58v 10b73x
  10b78v 10b92x 10b99v 10b9dx 10ba9v 10bb0x 10c00v 10c49x 10c80o10cc0 10cb3x 10cc0v 10cf3x 10cfav
  10d28x 10d30v 10d3ax 10d40v 10d50o10d70 10d66x 10d69v 10d86x 10d8ev 10d90x 10e60v 10e7fx 10e80v
  10eaax 10eabv 10eaex 10eb0v 10eb2x 10ec2v 10ec8x 10eccv 10ed9x 10eeev 10f28x 10f30v 10f5ax 10f70v
  10f8ax 10fb0v 10fccx 10fe0v 10ff7x 11000v 1104ex 11052v 11076x 1107fv 110bdx 110bev 110c3x 110d0v
  110e9x 110f0v 110fax 11100v 11135x 11136v 11148x 11150v 11177x 11180v 111e0x 111e1v 111f5x 11200v
  11212x 11213v 11242x 11280v 11287x 11288v 11289x 1128av 1128ex 1128fv 1129ex 1129fv 112aax 112b0v
  112ebx 112f0v 112fax 11300v 11304x 11305v 1130dx 1130fv 11311x 11313v 11329x 1132av 11331x 11332v
  11334x 11335v 1133ax 1133bv 11345x 11347v 11349x 1134bv 1134ex 11350v 11351x 11357v 11358x 1135dv
  11364x 11366v 1136dx 11370v 11375x 11380v 1138ax 1138bv 1138cx 1138ev 1138fx 11390v 113b6x 113b7v
  113c1x 113c2v 113c3x 113c5v 113c6x 113c7v 113cbx 113ccv 113d6x 113d7v 113d9x 113e1v 113e3x 11400v
  1145cx 1145dv 11462x 11480v 114c8x 114d0v 114dax 11580v 115b6x 115b8v 115dex 11600v 11645x 11650v
  1165ax 11660v 1166dx 11680v 116bax 116c0v 116cax 116d0v 116e4x 11700v 1171bx 1171dv 1172cx 11730v
  11747x 11800v 1183cx 118a0o118c0 118c0v 118f3x 118ffv 11907x 11909v 1190ax 1190cv 11914x 11915v
  11917x 11918v 11936x 11937v 11939x 1193bv 11947x 11950v 1195ax 119a0v 119a8x 119aav 119d8x 119dav
  119e5x 11a00v 11a48x 11a50v 11aa3x 11ab0v 11af9x 11b00v 11b0ax 11b60v 11b68x 11bc0v 11be2x 11bf0v
  11bfax 11c00v 11c09x 11c0av 11c37x 11c38v 11c46x 11c50v 11c6dx 11c70v 11c90x 11c92v 11ca8x 11ca9v
  11cb7x 11d00v 11d07x 11d08v 11d0ax 11d0bv 11d37x 11d3av 11d3bx 11d3cv 11d3ex 11d3fv 11d48x 11d50v
  11d5ax 11d60v 11d66x 11d67v 11d69x 11d6av 11d8fx 11d90v 11d92x 11d93v 11d99x 11da0v 11daax 11db0v
  11ddcx 11de0v 11deax 11df0v 11df2x 11ee0v 11ef9x 11f00v 11f11x 11f12v 11f3bx 11f3ev 11f5bx 11fb0v
  11fb1x 11fc0v 11ff2x 11fffv 1239ax 12400v 12544x 12550v 12687x 12f90v 12ff3x 13000v 13430x 13440v
  13456x 13460v 143fbx 14400v 14647x 16100v 1613ax 16800v 16a39x 16a40v 16a5fx 16a60v 16a6ax 16a6ev
  16abfx 16ac0v 16acax 16ad0v 16aeex 16af0v 16af6x 16b00v 16b46x 16b50v 16b5ax 16b5bv 16b62x 16b63v
  16b78x 16b7dv 16b90x 16d40v 16d7ax 16d80v 16d9ex 16da0v 16daax 16e40o16e60 16e60v 16e9bx
  16ea0o16ebb 16eb9x 16ebbv 16ed4x 16f00v 16f4bx 16f4fv 16f88x 16f8fv 16fa0x 16fe0v 16fe5x 16ff0v
  16ff7x 17000v 18d40x 18d80v 18df3x 18e00v 19192x 191a0v 191d3x 1aff0v 1aff4x 1aff5v 1affcx 1affdv
  1afffx 1b000v 1b123x 1b132v 1b133x 1b150v 1b153x 1b155v 1b156x 1b164v 1b168x 1b170v 1b2fcx 1bc00v
  1bc6bx 1bc70v 1bc7dx 1bc80v 1bc89x 1bc90v 1bc9ax 1bc9cv 1bca0i 1bca4x 1cc00v 1ccd6o61 1ccf0o30
  1ccfav 1ccfdx 1cd00v 1ced1x 1cee0v 1cef1x 1cf00v 1cf2ex 1cf30v 1cf47x 1cf50v 1cfc4x 1d000v 1d0f6x
  1d100v 1d15em1d157.1d165 1d15fm1d158.1d165 1d160m1d158.1d165.1d16e 1d161m1d158.1d165.1d16f
  1d162m1d158.1d165.1d170 1d163m1d158.1d165.1d171 1d164m1d158.1d165.1d172 1d165v 1d173i 1d17bv
  1d1bbm1d1b9.1d165 1d1bcm1d1ba.1d165 1d1bdm1d1b9.1d165.1d16e 1d1bem1d1ba.1d165.1d16e
  1d1bfm1d1b9.1d165.1d16f 1d1c0m1d1ba.1d165.1d16f 1d1c1v 1d246x 1d250v 1d25fx 1d2c0v 1d2d4x 1d2e0v
  1d2f4x 1d300v 1d357x 1d360v 1d379x 1d400o61 1d41ao61 1d434o61 1d44eo61 1d455x 1d456o69 1d468o61
  1d482o61 1d49co61 1d49dx 1d49eo63 1d4a0x 1d4a2o67 1d4a3x 1d4a5o6a 1d4a7x 1d4a9o6e 1d4adx 1d4aeo73
  1d4b6o61 1d4bax 1d4bbo66 1d4bcx 1d4bdo68 1d4c4x 1d4c5o70 1d4d0o61 1d4eao61 1d504o61 1d506x
  1d507o64 1d50bx 1d50do6a 1d515x 1d516o73 1d51dx 1d51eo61 1d538o61 1d53ax 1d53bo64 1d53fx 1d540o69
  1d545x 1d546o6f 1d547x 1d54ao73 1d551x 1d552o61 1d56co61 1d586o61 1d5a0o61 1d5bao61 1d5d4o61
  1d5eeo61 1d608o61 1d622o61 1d63co61 1d656o61 1d670o61 1d68ao61 1d6a4o131 1d6a5o237 1d6a6x
  1d6a8o3b1 1d6b9o3b8 1d6bao3c3 1d6c1o2207 1d6c2o3b1 1d6d3m3c3 1d6d5o3c4 1d6dbo2202 1d6dco3b5
  1d6ddo3b8 1d6deo3ba 1d6dfo3c6 1d6e0o3c1 1d6e1o3c0 1d6e2o3b1 1d6f3o3b8 1d6f4o3c3 1d6fbo2207
  1d6fco3b1 1d70dm3c3 1d70fo3c4 1d715o2202 1d716o3b5 1d717o3b8 1d718o3ba 1d719o3c6 1d71ao3c1
  1d71bo3c0 1d71co3b1 1d72do3b8 1d72eo3c3 1d735o2207 1d736o3b1 1d747m3c3 1d749o3c4 1d74fo2202
  1d750o3b5 1d751o3b8 1d752o3ba 1d753o3c6 1d754o3c1 1d755o3c0 1d756o3b1 1d767o3b8 1d768o3c3
  1d76fo2207 1d770o3b1 1d781m3c3 1d783o3c4 1d789o2202 1d78ao3b5 1d78bo3b8 1d78co3ba 1d78do3c6
  1d78eo3c1 1d78fo3c0 1d790o3b1 1d7a1o3b8 1d7a2o3c3 1d7a9o2207 1d7aao3b1 1d7bbm3c3 1d7bdo3c4
  1d7c3o2202 1d7c4o3b5 1d7c5o3b8 1d7c6o3ba 1d7c7o3c6 1d7c8o3c1 1d7c9o3c0 1d7cam3dd 1d7ccx 1d7ceo30
  1d7d8o30 1d7e2o30 1d7eco30 1d7f6o30 1d800v 1da8cx 1da9bv 1daa0x 1daa1v 1dab0x 1db00v 1db1dx
  1df00v 1df40o250 1dfa0o1d00 1dfccm1d6b 1dfcdx 1e000v 1e007x 1e008v 1e019x 1e01bv 1e022x 1e023v
  1e025x 1e026v 1e02bx 1e030o430 1e039o43a 1e03co43e 1e047o44b 1e048o44d 1e04aoa689 1e04bo4d9
  1e04co456 1e04do458 1e04eo4e9 1e04fo4af 1e050o4cf 1e051o430 1e05ao43a 1e05co43e 1e05eo441
  1e05fo443 1e065o44a 1e067o491 1e068o456 1e069o455 1e06ao45f 1e06bo4ab 1e06coa651 1e06do4b1 1e06ex
  1e08fv 1e090x 1e100v 1e12dx 1e130v 1e13ex 1e140v 1e14ax 1e14ev 1e150x 1e290v 1e2afx 1e2c0v 1e2fax
  1e2ffv 1e300x 1e4d0v 1e4fax 1e5d0v 1e5fbx 1e5ffv 1e600x 1e6c0v 1e6dfx 1e6e0v 1e6f6x 1e6fev 1e700x
  1e7e0v 1e7e7x 1e7e8v 1e7ecx 1e7edv 1e7efx 1e7f0v 1e7ffx 1e800v 1e8c5x 1e8c7v 1e8d7x 1e900o1e922
  1e922v 1e94cx 1e950v 1e95ax 1e95ev 1e960x 1ec71v 1ecb5x 1ed01v 1ed3ex 1ee00o627 1ee02o62c
  1ee03o62f 1ee04x 1ee05o648 1ee06o632 1ee07o62d 1ee08o637 1ee09o64a 1ee0ao643 1ee0eo633 1ee0fo639
  1ee10o641 1ee11o635 1ee12o642 1ee13o631 1ee14o634 1ee15o62a 1ee17o62e 1ee18o630 1ee19o636
  1ee1ao638 1ee1bo63a 1ee1co66e 1ee1do6ba 1ee1eo6a1 1ee1fo66f 1ee20x 1ee21o628 1ee22o62c 1ee23x
  1ee24o647 1ee25x 1ee27o62d 1ee28x 1ee29o64a 1ee2ao643 1ee2eo633 1ee2fo639 1ee30o641 1ee31o635
  1ee32o642 1ee33x 1ee34o634 1ee35o62a 1ee37o62e 1ee38x 1ee39o636 1ee3ax 1ee3bo63a 1ee3cx 1ee42o62c
  1ee43x 1ee47o62d 1ee48x 1ee49o64a 1ee4ax 1ee4bo644 1ee4cx 1ee4do646 1ee4eo633 1ee4fo639 1ee50x
  1ee51o635 1ee52o642 1ee53x 1ee54o634 1ee55x 1ee57o62e 1ee58x 1ee59o636 1ee5ax 1ee5bo63a 1ee5cx
  1ee5do6ba 1ee5ex 1ee5fo66f 1ee60x 1ee61o628 1ee62o62c 1ee63x 1ee64o647 1ee65x 1ee67o62d 1ee68o637
  1ee69o64a 1ee6ao643 1ee6bx 1ee6co645 1ee6eo633 1ee6fo639 1ee70o641 1ee71o635 1ee72o642 1ee73x
  1ee74o634 1ee75o62a 1ee77o62e 1ee78x 1ee79o636 1ee7ao638 1ee7bo63a 1ee7co66e 1ee7dx 1ee7eo6a1
  1ee7fx 1ee80o627 1ee82o62c 1ee83o62f 1ee84o647 1ee86o632 1ee87o62d 1ee88o637 1ee89o64a 1ee8ax
  1ee8bo644 1ee8eo633 1ee8fo639 1ee90o641 1ee91o635 1ee92o642 1ee93o631 1ee94o634 1ee95o62a
  1ee97o62e 1ee98o630 1ee99o636 1ee9ao638 1ee9bo63a 1ee9cx 1eea1o628 1eea2o62c 1eea3o62f 1eea4x
  1eea5o648 1eea6o632 1eea7o62d 1eea8o637 1eea9o64a 1eeaax 1eeabo644 1eeaeo633 1eeafo639 1eeb0o641
  1eeb1o635 1eeb2o642 1eeb3o631 1eeb4o634 1eeb5o62a 1eeb7o62e 1eeb8o630 1eeb9o636 1eebao638
  1eebbo63a 1eebcx 1eef0v 1eef2x 1f000v 1f02cx 1f030v 1f094x 1f0a0v 1f0afx 1f0b1v 1f0c0x 1f0c1v
  1f0d0x 1f0d1v 1f0f6x 1f101m30.2c 1f102m31.2c 1f103m32.2c 1f104m33.2c 1f105m34.2c 1f106m35.2c
  1f107m36.2c 1f108m37.2c 1f109m38.2c 1f10am39.2c 1f10bv 1f110m28.61.29 1f111m28.62.29
  1f112m28.63.29 1f113m28.64.29 1f114m28.65.29 1f115m28.66.29 1f116m28.67.29 1f117m28.68.29
  1f118m28.69.29 1f119m28.6a.29 1f11am28.6b.29 1f11bm28.6c.29 1f11cm28.6d.29 1f11dm28.6e.29
  1f11em28.6f.29 1f11fm28.70.29 1f120m28.71.29 1f121m28.72.29 1f122m28.73.29 1f123m28.74.29
  1f124m28.75.29 1f125m28.76.29 1f126m28.77.29 1f127m28.78.29 1f128m28.79.29 1f129m28.7a.29
  1f12am3014.73.3015 1f12bo63 1f12co72 1f12dm63.64 1f12em77.7a 1f12fv 1f130o61 1f14am68.76
  1f14bm6d.76 1f14cm73.64 1f14dm73.73 1f14em70.70.76 1f14fm77.63 1f150v 1f16am6d.63 1f16bm6d.64
  1f16cm6d.72 1f16dv 1f190m64.6a 1f191v 1f1b0x 1f1e6v 1f200m307b.304b 1f201m30b3.30b3 1f202o30b5
  1f203x 1f210o624b 1f211o5b57 1f212o53cc 1f213o30c7 1f214o4e8c 1f215o591a 1f216o89e3 1f217o5929
  1f218o4ea4 1f219o6620 1f21ao7121 1f21bo6599 1f21co524d 1f21do5f8c 1f21eo518d 1f21fo65b0
  1f220o521d 1f221o7d42 1f222o751f 1f223o8ca9 1f224o58f0 1f225o5439 1f226o6f14 1f227o6295
  1f228o6355 1f229o4e00 1f22ao4e09 1f22bo904a 1f22co5de6 1f22do4e2d 1f22eo53f3 1f22fo6307
  1f230o8d70 1f231o6253 1f232o7981 1f233o7a7a 1f234o5408 1f235o6e80 1f236o6709 1f237o6708
  1f238o7533 1f239o5272 1f23ao55b6 1f23bo914d 1f23cx 1f240m3014.672c.3015 1f241m3014.4e09.3015
  1f242m3014.4e8c.3015 1f243m3014.5b89.3015 1f244m3014.70b9.3015 1f245m3014.6253.3015
  1f246m3014.76d7.3015 1f247m3014.52dd.3015 1f248m3014.6557.3015 1f249x 1f250o5f97 1f251o53ef
  1f252x 1f260v 1f266x 1f300v 1f6dax 1f6dcv 1f6edx 1f6f0v 1f6fdx 1f700v 1f7dax 1f7e0v 1f7ecx 1f7f0v
  1f7f1x 1f800v 1f80cx 1f810v 1f848x 1f850v 1f85ax 1f860v 1f888x 1f890v 1f8aex 1f8b0v 1f8bcx 1f8c0v
  1f8c2x 1f8d0v 1f8d9x 1f900v 1fa58x 1fa60v 1fa6ex 1fa70v 1fa7dx 1fa80v 1fac7x 1fac8v 1fac9x 1facbv
  1fadex 1fadfv 1faecx 1faefv 1fafbx 1fb00v 1fb93x 1fb94v 1fbf0o30 1fbfav 1fbfbx 20000v 2a6e0x
  2a700v 2b81ex 2b820v 2ceaex 2ceb0v 2ebe1x 2ebf0v 2ee5ex 2f800o4e3d 2f801o4e38 2f802o4e41
  2f803o20122 2f804o4f60 2f805o4fae 2f806o4fbb 2f807o5002 2f808o507a 2f809o5099 2f80ao50e7
  2f80bo50cf 2f80co349e 2f80do2063a 2f80eo514d 2f80fo5154 2f810o5164 2f811o5177 2f812o2051c
  2f813o34b9 2f814o5167 2f815o518d 2f816o2054b 2f817o5197 2f818o51a4 2f819o4ecc 2f81ao51ac
  2f81bo51b5 2f81co291df 2f81do51f5 2f81eo5203 2f81fo34df 2f820o523b 2f821o5246 2f822o5272
  2f823o5277 2f824o3515 2f825o52c7 2f826o52c9 2f827o52e4 2f828o52fa 2f829o5305 2f82bo5317
  2f82co5349 2f82do5351 2f82eo535a 2f82fo5373 2f830o537d 2f831m537f 2f834o20a2c 2f835o7070
  2f836o53ca 2f837o53df 2f838o20b63 2f839o53eb 2f83ao53f1 2f83bo5406 2f83co549e 2f83do5438
  2f83eo5448 2f83fo5468 2f840o54a2 2f841o54f6 2f842o5510 2f843o5553 2f844o5563 2f845m5584
  2f847o5599 2f848o55ab 2f849o55b3 2f84ao55c2 2f84bo5716 2f84co5606 2f84do5717 2f84eo5651
  2f84fo5674 2f850o5207 2f851o58ee 2f852o57ce 2f853o57f4 2f854o580d 2f855o578b 2f856o5832
  2f857o5831 2f858o58ac 2f859o214e4 2f85ao58f2 2f85bo58f7 2f85co5906 2f85do591a 2f85eo5922
  2f85fo5962 2f860o216a8 2f861o216ea 2f862o59ec 2f863o5a1b 2f864o5a27 2f865o59d8 2f866o5a66
  2f867o36ee 2f868o36fc 2f869o5b08 2f86am5b3e 2f86co219c8 2f86do5bc3 2f86eo5bd8 2f86fo5be7
  2f870o5bf3 2f871o21b18 2f872o5bff 2f873o5c06 2f874o5f53 2f875o5c22 2f876o3781 2f877o5c60
  2f878o5c6e 2f879o5cc0 2f87ao5c8d 2f87bo21de4 2f87co5d43 2f87do21de6 2f87eo5d6e 2f87fo5d6b
  2f880o5d7c 2f881o5de1 2f883o382f 2f884o5dfd 2f885o5e28 2f886o5e3d 2f887o5e69 2f888o3862
  2f889o22183 2f88ao387c 2f88bo5eb0 2f88co5eb3 2f88do5eb6 2f88eo5eca 2f88fo2a392 2f890o5efe
  2f891m22331 2f893o8201 2f894m5f22 2f896o38c7 2f897o232b8 2f898o261da 2f899o5f62 2f89ao5f6b
  2f89bo38e3 2f89co5f9a 2f89do5fcd 2f89eo5fd7 2f89fo5ff9 2f8a0o6081 2f8a1o393a 2f8a2o391c
  2f8a3o6094 2f8a4o226d4 2f8a5o60c7 2f8a6o6148 2f8a7o614c 2f8a8o614e 2f8a9o614c 2f8aao617a
  2f8abo618e 2f8aco61b2 2f8ado61a4 2f8aeo61af 2f8afo61de 2f8b0o61f2 2f8b1o61f6 2f8b2o6210
  2f8b3o621b 2f8b4o625d 2f8b5o62b1 2f8b6o62d4 2f8b7o6350 2f8b8o22b0c 2f8b9o633d 2f8bao62fc
  2f8bbo6368 2f8bco6383 2f8bdo63e4 2f8beo22bf1 2f8bfo6422 2f8c0o63c5 2f8c1o63a9 2f8c2o3a2e
  2f8c3o6469 2f8c4o647e 2f8c5o649d 2f8c6o6477 2f8c7o3a6c 2f8c8o654f 2f8c9o656c 2f8cao2300a
  2f8cbo65e3 2f8cco66f8 2f8cdo6649 2f8ceo3b19 2f8cfo6691 2f8d0o3b08 2f8d1o3ae4 2f8d2o5192
  2f8d3o5195 2f8d4o6700 2f8d5o669c 2f8d6o80ad 2f8d7o43d9 2f8d8o6717 2f8d9o671b 2f8dao6721
  2f8dbo675e 2f8dco6753 2f8ddo233c3 2f8deo3b49 2f8dfo67fa 2f8e0o6785 2f8e1o6852 2f8e2o6885
  2f8e3o2346d 2f8e4o688e 2f8e5o681f 2f8e6o6914 2f8e7o3b9d 2f8e8o6942 2f8e9o69a3 2f8eao69ea
  2f8ebo6aa8 2f8eco236a3 2f8edo6adb 2f8eeo3c18 2f8efo6b21 2f8f0o238a7 2f8f1o6b54 2f8f2o3c4e
  2f8f3o6b72 2f8f4o6b9f 2f8f5o6bba 2f8f7o23a8d 2f8f8o21d0b 2f8f9o23afa 2f8fao6c4e 2f8fbo23cbc
  2f8fco6cbf 2f8fdo6ccd 2f8feo6c67 2f8ffo6d16 2f900o6d3e 2f901o6d77 2f902o6d41 2f903o6d69
  2f904o6d78 2f905o6d85 2f906o23d1e 2f907o6d34 2f908o6e2f 2f909o6e6e 2f90ao3d33 2f90bo6ecb
  2f90co6ec7 2f90do23ed1 2f90eo6df9 2f90fo6f6e 2f910o23f5e 2f911o23f8e 2f912o6fc6 2f913o7039
  2f914o701e 2f915o701b 2f916o3d96 2f917o704a 2f918o707d 2f919o7077 2f91ao70ad 2f91bo20525
  2f91co7145 2f91do24263 2f91eo719c 2f91fo243ab 2f920o7228 2f921o7235 2f922o7250 2f923o24608
  2f924o7280 2f925o7295 2f926o24735 2f927o24814 2f928o737a 2f929o738b 2f92ao3eac 2f92bo73a5
  2f92cm3eb8 2f92eo7447 2f92fo745c 2f930o7471 2f931o7485 2f932o74ca 2f933o3f1b 2f934o7524
  2f935o24c36 2f936o753e 2f937o24c92 2f938o7570 2f939o2219f 2f93ao7610 2f93bo24fa1 2f93co24fb8
  2f93do25044 2f93eo3ffc 2f93fo4008 2f940o76f4 2f941o250f3 2f942o250f2 2f943o25119 2f944o25133
  2f945o771e 2f946m771f 2f948o774a 2f949o4039 2f94ao778b 2f94bo4046 2f94co4096 2f94do2541d
  2f94eo784e 2f94fo788c 2f950o78cc 2f951o40e3 2f952o25626 2f953o7956 2f954o2569a 2f955o256c5
  2f956o798f 2f957o79eb 2f958o412f 2f959o7a40 2f95ao7a4a 2f95bo7a4f 2f95co2597c 2f95dm25aa7
  2f95fo7aee 2f960o4202 2f961o25bab 2f962o7bc6 2f963o7bc9 2f964o4227 2f965o25c80 2f966o7cd2
  2f967o42a0 2f968o7ce8 2f969o7ce3 2f96ao7d00 2f96bo25f86 2f96co7d63 2f96do4301 2f96eo7dc7
  2f96fo7e02 2f970o7e45 2f971o4334 2f972o26228 2f973o26247 2f974o4359 2f975o262d9 2f976o7f7a
  2f977o2633e 2f978o7f95 2f979o7ffa 2f97ao8005 2f97bo264da 2f97co26523 2f97do8060 2f97eo265a8
  2f97fo8070 2f980o2335f 2f981o43d5 2f982o80b2 2f983o8103 2f984o440b 2f985o813e 2f986o5ab5
  2f987o267a7 2f988o267b5 2f989o23393 2f98ao2339c 2f98bo8201 2f98co8204 2f98do8f9e 2f98eo446b
  2f98fo8291 2f990o828b 2f991o829d 2f992o52b3 2f993o82b1 2f994o82b3 2f995o82bd 2f996o82e6
  2f997o26b3c 2f998o82e5 2f999o831d 2f99ao8363 2f99bo83ad 2f99co8323 2f99do83bd 2f99eo83e7
  2f99fo8457 2f9a0o8353 2f9a1o83ca 2f9a2o83cc 2f9a3o83dc 2f9a4o26c36 2f9a5o26d6b 2f9a6o26cd5
  2f9a7o452b 2f9a8o84f1 2f9a9o84f3 2f9aao8516 2f9abo273ca 2f9aco8564 2f9ado26f2c 2f9aeo455d
  2f9afo4561 2f9b0o26fb1 2f9b1o270d2 2f9b2o456b 2f9b3o8650 2f9b4o865c 2f9b5o8667 2f9b6o8669
  2f9b7o86a9 2f9b8o8688 2f9b9o870e 2f9bao86e2 2f9bbo8779 2f9bco8728 2f9bdo876b 2f9beo8786
  2f9bfo45d7 2f9c0o87e1 2f9c1o8801 2f9c2o45f9 2f9c3o8860 2f9c4o8863 2f9c5o27667 2f9c6o88d7
  2f9c7o88de 2f9c8o4635 2f9c9o88fa 2f9cao34bb 2f9cbo278ae 2f9cco27966 2f9cdo46be 2f9ceo46c7
  2f9cfo8aa0 2f9d0o8aed 2f9d1o8b8a 2f9d2o8c55 2f9d3o27ca8 2f9d4o8cab 2f9d5o8cc1 2f9d6o8d1b
  2f9d7o8d77 2f9d8o27f2f 2f9d9o20804 2f9dao8dcb 2f9dbo8dbc 2f9dco8df0 2f9ddo208de 2f9deo8ed4
  2f9dfo8f38 2f9e0o285d2 2f9e1o285ed 2f9e2o9094 2f9e3o90f1 2f9e4o9111 2f9e5o2872e 2f9e6o911b
  2f9e7o9238 2f9e8o92d7 2f9eao927c 2f9ebo93f9 2f9eco9415 2f9edo28bfa 2f9eeo958b 2f9efo4995
  2f9f0o95b7 2f9f1o28d77 2f9f2o49e6 2f9f3o96c3 2f9f4o5db2 2f9f5o9723 2f9f6o29145 2f9f7o2921a
  2f9f8o4a6e 2f9f9o4a76 2f9fao97e0 2f9fbo2940a 2f9fco4ab2 2f9fdo29496 2f9fem980b 2fa00o9829
  2fa01o295b6 2fa02o98e2 2fa03o4b33 2fa04o9929 2fa05o99a7 2fa06o99c2 2fa07o99fe 2fa08o4bce
  2fa09o29b30 2fa0ao9b12 2fa0bo9c40 2fa0co9cfd 2fa0do4cce 2fa0eo4ced 2fa0fo9d67 2fa10o2a0ce
  2fa11o4cf8 2fa12o2a105 2fa13o2a20e 2fa14o2a291 2fa15o9ebb 2fa16o4d56 2fa17o9ef9 2fa18o9efe
  2fa19o9f05 2fa1ao9f0f 2fa1bo9f16 2fa1co9f3b 2fa1do2a600 2fa1ex 30000v 3134bx 31350v 3347ax 3d000v
  3fc40x e0100i e01f0x"

/-- What happens to the characters of a run. -/
inductive HostMapping where
  | keep
  | drop
  | refuse
  | shift (start target : Nat)
  | replace (by' : List Nat)

/-- A run of the table. -/
structure HostMappingRun where
  start : Nat
  mapping : HostMapping

/-- Reads a run. -/
def readHostMappingRun (word : List Char) : HostMappingRun :=
  let isKind (character : Char) : Bool :=
    character == 'v' || character == 'i' || character == 'x' || character == 'o' ||
      character == 'm'
  let start := hexValue (word.takeWhile (!isKind ·))
  match word.dropWhile (!isKind ·) with
  | 'v' :: _ => ⟨start, .keep⟩
  | 'i' :: _ => ⟨start, .drop⟩
  | 'o' :: target => ⟨start, .shift start (hexValue target)⟩
  | 'm' :: target => ⟨start, .replace ((splitAt '.' target).map hexValue)⟩
  | _ => ⟨start, .refuse⟩

/-- The runs in the order of their code points. -/
def hostMappingRuns : List HostMappingRun := (words hostMappingText).map readHostMappingRun

/-- The last run that starts at or before a code point. -/
def lastRun (code : Nat) (found : HostMapping) : List HostMappingRun → HostMapping
  | [] => found
  | run :: rest => if run.start ≤ code then lastRun code run.mapping rest else found

/-- What happens to a code point. -/
def hostMapping (code : Nat) : HostMapping := lastRun code .refuse hostMappingRuns

/-- The lower-case form of a capital ASCII letter. -/
def lowerAscii (code : Nat) : Nat := if 0x41 ≤ code ∧ code ≤ 0x5A then code + 0x20 else code

/-- The code points a code point is mapped to; nothing if it is refused. Of ASCII only the
capital letters are mapped. -/
def mapHostCode? (code : Nat) : Option (List Nat) :=
  if code < 0x80 then some [lowerAscii code]
  else match hostMapping code with
    | .keep => some [code]
    | .drop => some []
    | .refuse => none
    | .shift start target => some [target + (code - start)]
    | .replace codes => some codes

/-- Whether a code point may stand in a label as it is. -/
def isHostCode (code : Nat) : Bool :=
  if code < 0x80 then lowerAscii code == code
  else match hostMapping code with
    | .keep => true
    | _ => false

end GatewayOperator.Unicode
