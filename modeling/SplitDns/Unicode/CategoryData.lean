/-!
# Character classes: data

The classes of every code point as runs: each entry is the first code point of a run in hex and
the class letter of the run, which lasts until the next entry. `E` is a grapheme-extending
mark, `F` another grapheme-extending character, `M` any other mark, `N` a number, `X` a
character of the categories of controls, formats, surrogates, private use, unassigned code
points and separators other than the space, and `O` everything else.
-/

namespace SplitDns
namespace Unicode

/-- The runs of character classes, as text. -/
def categoryRuns : String :=
  String.join [
    "0X 20O 30N 3aO 7fX a1O adX aeO b2N b4O b9N baO bcN bfO 300E 370O 378X 37aO 380X 384O 38bX 38cO ",
    "38dX 38eO 3a2X 3a3O 483E 48aO 530X 531O 557X 559O 58bX 58dO 590X 591E 5beO 5bfE 5c0O 5c1E 5c3O ",
    "5c4E 5c6O 5c7E 5c8X 5d0O 5ebX 5efO 5f5X 606O 610E 61bO 61cX 61dO 64bE 660N 66aO 670E 671O 6d6E ",
    "6ddX 6deO 6dfE 6e5O 6e7E 6e9O 6eaE 6eeO 6f0N 6faO 70eX 710O 711E 712O 730E 74bX 74dO 7a6E 7b1O ",
    "7b2X 7c0N 7caO 7ebE 7f4O 7fbX 7fdE 7feO 816E 81aO 81bE 824O 825E 828O 829E 82eX 830O 83fX 840O ",
    "859E 85cX 85eO 85fX 860O 86bX 870O 88fX 898E 8a0O 8caE 8e2X 8e3E 903M 904O 93aE 93bM 93cE 93dO ",
    "93eM 941E 949M 94dE 94eM 950O 951E 958O 962E 964O 966N 970O 981E 982M 984X 985O 98dX 98fO 991X ",
    "993O 9a9X 9aaO 9b1X 9b2O 9b3X 9b6O 9baX 9bcE 9bdO 9beE 9bfM 9c1E 9c5X 9c7M 9c9X 9cbM 9cdE 9ceO ",
    "9cfX 9d7E 9d8X 9dcO 9deX 9dfO 9e2E 9e4X 9e6N 9f0O 9f4N 9faO 9feE 9ffX a01E a03M a04X a05O a0bX ",
    "a0fO a11X a13O a29X a2aO a31X a32O a34X a35O a37X a38O a3aX a3cE a3dX a3eM a41E a43X a47E a49X ",
    "a4bE a4eX a51E a52X a59O a5dX a5eO a5fX a66N a70E a72O a75E a76O a77X a81E a83M a84X a85O a8eX ",
    "a8fO a92X a93O aa9X aaaO ab1X ab2O ab4X ab5O abaX abcE abdO abeM ac1E ac6X ac7E ac9M acaX acbM ",
    "acdE aceX ad0O ad1X ae0O ae2E ae4X ae6N af0O af2X af9O afaE b00X b01E b02M b04X b05O b0dX b0fO ",
    "b11X b13O b29X b2aO b31X b32O b34X b35O b3aX b3cE b3dO b3eE b40M b41E b45X b47M b49X b4bM b4dE ",
    "b4eX b55E b58X b5cO b5eX b5fO b62E b64X b66N b70O b72N b78X b82E b83O b84X b85O b8bX b8eO b91X ",
    "b92O b96X b99O b9bX b9cO b9dX b9eO ba0X ba3O ba5X ba8O babX baeO bbaX bbeE bbfM bc0E bc1M bc3X ",
    "bc6M bc9X bcaM bcdE bceX bd0O bd1X bd7E bd8X be6N bf3O bfbX c00E c01M c04E c05O c0dX c0eO c11X ",
    "c12O c29X c2aO c3aX c3cE c3dO c3eE c41M c45X c46E c49X c4aE c4eX c55E c57X c58O c5bX c5dO c5eX ",
    "c60O c62E c64X c66N c70X c77O c78N c7fO c81E c82M c84O c8dX c8eO c91X c92O ca9X caaO cb4X cb5O ",
    "cbaX cbcE cbdO cbeM cbfE cc1M cc2E cc3M cc5X cc6E cc9X ccaE cceX cd5E cd7X cddO cdfX ce0O ce2E ",
    "ce4X ce6N cf0X cf1O cf3M cf4X d00E d02M d04O d0dX d0eO d11X d12O d3bE d3dO d3eE d3fM d41E d45X ",
    "d46M d49X d4aM d4dE d4eO d50X d54O d57E d58N d5fO d62E d64X d66N d79O d80X d81E d82M d84X d85O ",
    "d97X d9aO db2X db3O dbcX dbdO dbeX dc0O dc7X dcaE dcbX dcfE dd0M dd2E dd5X dd6E dd7X dd8M ddfE ",
    "de0X de6N df0X df2M df4O df5X e01O e31E e32O e34E e3bX e3fO e47E e4fO e50N e5aO e5cX e81O e83X ",
    "e84O e85X e86O e8bX e8cO ea4X ea5O ea6X ea7O eb1E eb2O eb4E ebdO ebeX ec0O ec5X ec6O ec7X ec8E ",
    "ecfX ed0N edaX edcO ee0X f00O f18E f1aO f20N f34O f35E f36O f37E f38O f39E f3aO f3eM f40O f48X ",
    "f49O f6dX f71E f7fM f80E f85O f86E f88O f8dE f98X f99E fbdX fbeO fc6E fc7O fcdX fceO fdbX 1000O ",
    "102bM 102dE 1031M 1032E 1038M 1039E 103bM 103dE 103fO 1040N 104aO 1056M 1058E 105aO 105eE 1061O ",
    "1062M 1065O 1067M 106eO 1071E 1075O 1082E 1083M 1085E 1087M 108dE 108eO 108fM 1090N 109aM 109dE ",
    "109eO 10c6X 10c7O 10c8X 10cdO 10ceX 10d0O 1249X 124aO 124eX 1250O 1257X 1258O 1259X 125aO 125eX ",
    "1260O 1289X 128aO 128eX 1290O 12b1X 12b2O 12b6X 12b8O 12bfX 12c0O 12c1X 12c2O 12c6X 12c8O 12d7X ",
    "12d8O 1311X 1312O 1316X 1318O 135bX 135dE 1360O 1369N 137dX 1380O 139aX 13a0O 13f6X 13f8O 13feX ",
    "1400O 1680X 1681O 169dX 16a0O 16eeN 16f1O 16f9X 1700O 1712E 1716X 171fO 1732E 1735O 1737X 1740O ",
    "1752E 1754X 1760O 176dX 176eO 1771X 1772E 1774X 1780O 17b4E 17b6M 17b7E 17beM 17c6E 17c7M 17c9E ",
    "17d4O 17ddE 17deX 17e0N 17eaX 17f0N 17faX 1800O 180bE 180eX 180fE 1810N 181aX 1820O 1879X 1880O ",
    "1885E 1887O 18a9E 18aaO 18abX 18b0O 18f6X 1900O 191fX 1920E 1923M 1927E 1929M 192cX 1930M 1932E ",
    "1933M 1939E 193cX 1940O 1941X 1944O 1946N 1950O 196eX 1970O 1975X 1980O 19acX 19b0O 19caX 19d0N ",
    "19dbX 19deO 1a17E 1a19M 1a1bE 1a1cX 1a1eO 1a55M 1a56E 1a57M 1a58E 1a5fX 1a60E 1a61M 1a62E 1a63M ",
    "1a65E 1a6dM 1a73E 1a7dX 1a7fE 1a80N 1a8aX 1a90N 1a9aX 1aa0O 1aaeX 1ab0E 1acfX 1b00E 1b04M 1b05O ",
    "1b34E 1b3eM 1b42E 1b45O 1b4dX 1b50N 1b5aO 1b6bE 1b74O 1b7fX 1b80E 1b82M 1b83O 1ba1M 1ba2E 1ba6M ",
    "1ba8E 1baeO 1bb0N 1bbaO 1be6E 1be7M 1be8E 1beaM 1bedE 1beeM 1befE 1bf4X 1bfcO 1c24M 1c2cE 1c34M ",
    "1c36E 1c38X 1c3bO 1c40N 1c4aX 1c4dO 1c50N 1c5aO 1c89X 1c90O 1cbbX 1cbdO 1cc8X 1cd0E 1cd3O 1cd4E ",
    "1ce1M 1ce2E 1ce9O 1cedE 1ceeO 1cf4E 1cf5O 1cf7M 1cf8E 1cfaO 1cfbX 1d00O 1dc0E 1e00O 1f16X 1f18O ",
    "1f1eX 1f20O 1f46X 1f48O 1f4eX 1f50O 1f58X 1f59O 1f5aX 1f5bO 1f5cX 1f5dO 1f5eX 1f5fO 1f7eX 1f80O ",
    "1fb5X 1fb6O 1fc5X 1fc6O 1fd4X 1fd6O 1fdcX 1fddO 1ff0X 1ff2O 1ff5X 1ff6O 1fffX 200cF 200dX 2010O ",
    "2028X 2030O 205fX 2070N 2071O 2072X 2074N 207aO 2080N 208aO 208fX 2090O 209dX 20a0O 20c1X 20d0E ",
    "20f1X 2100O 2150N 2183O 2185N 218aO 218cX 2190O 2427X 2440O 244bX 2460N 249cO 24eaN 2500O 2776N ",
    "2794O 2b74X 2b76O 2b96X 2b97O 2cefE 2cf2O 2cf4X 2cf9O 2cfdN 2cfeO 2d26X 2d27O 2d28X 2d2dO 2d2eX ",
    "2d30O 2d68X 2d6fO 2d71X 2d7fE 2d80O 2d97X 2da0O 2da7X 2da8O 2dafX 2db0O 2db7X 2db8O 2dbfX 2dc0O ",
    "2dc7X 2dc8O 2dcfX 2dd0O 2dd7X 2dd8O 2ddfX 2de0E 2e00O 2e5eX 2e80O 2e9aX 2e9bO 2ef4X 2f00O 2fd6X ",
    "2ff0O 2ffcX 3001O 3007N 3008O 3021N 302aE 3030O 3038N 303bO 3040X 3041O 3097X 3099E 309bO 3100X ",
    "3105O 3130X 3131O 318fX 3190O 3192N 3196O 31e4X 31f0O 321fX 3220N 322aO 3248N 3250O 3251N 3260O ",
    "3280N 328aO 32b1N 32c0O a48dX a490O a4c7X a4d0O a620N a62aO a62cX a640O a66fE a673O a674E a67eO ",
    "a69eE a6a0O a6e6N a6f0E a6f2O a6f8X a700O a7cbX a7d0O a7d2X a7d3O a7d4X a7d5O a7daX a7f2O a802E ",
    "a803O a806E a807O a80bE a80cO a823M a825E a827M a828O a82cE a82dX a830N a836O a83aX a840O a878X ",
    "a880M a882O a8b4M a8c4E a8c6X a8ceO a8d0N a8daX a8e0E a8f2O a8ffE a900N a90aO a926E a92eO a947E ",
    "a952M a953E a954X a95fO a97dX a980E a983M a984O a9b3E a9b4M a9b6E a9baM a9bcE a9beM a9c0E a9c1O ",
    "a9ceX a9cfO a9d0N a9daX a9deO a9e5E a9e6O a9f0N a9faO a9ffX aa00O aa29E aa2fM aa31E aa33M aa35E ",
    "aa37X aa40O aa43E aa44O aa4cE aa4dM aa4eX aa50N aa5aX aa5cO aa7bM aa7cE aa7dM aa7eO aab0E aab1O ",
    "aab2E aab5O aab7E aab9O aabeE aac0O aac1E aac2O aac3X aadbO aaebM aaecE aaeeM aaf0O aaf5M aaf6E ",
    "aaf7X ab01O ab07X ab09O ab0fX ab11O ab17X ab20O ab27X ab28O ab2fX ab30O ab6cX ab70O abe3M abe5E ",
    "abe6M abe8E abe9M abebO abecM abedE abeeX abf0N abfaX ac00O d7a4X d7b0O d7c7X d7cbO d7fcX f900O ",
    "fa6eX fa70O fadaX fb00O fb07X fb13O fb18X fb1dO fb1eE fb1fO fb37X fb38O fb3dX fb3eO fb3fX fb40O ",
    "fb42X fb43O fb45X fb46O fbc3X fbd3O fd90X fd92O fdc8X fdcfO fdd0X fdf0O fe00E fe10O fe1aX fe20E ",
    "fe30O fe53X fe54O fe67X fe68O fe6cX fe70O fe75X fe76O fefdX ff01O ff10N ff1aO ff9eF ffa0O ffbfX ",
    "ffc2O ffc8X ffcaO ffd0X ffd2O ffd8X ffdaO ffddX ffe0O ffe7X ffe8O ffefX fffcO fffeX 10000O ",
    "1000cX 1000dO 10027X 10028O 1003bX 1003cO 1003eX 1003fO 1004eX 10050O 1005eX 10080O 100fbX ",
    "10100O 10103X 10107N 10134X 10137O 10140N 10179O 1018aN 1018cO 1018fX 10190O 1019dX 101a0O ",
    "101a1X 101d0O 101fdE 101feX 10280O 1029dX 102a0O 102d1X 102e0E 102e1N 102fcX 10300O 10320N ",
    "10324X 1032dO 10341N 10342O 1034aN 1034bX 10350O 10376E 1037bX 10380O 1039eX 1039fO 103c4X ",
    "103c8O 103d1N 103d6X 10400O 1049eX 104a0N 104aaX 104b0O 104d4X 104d8O 104fcX 10500O 10528X ",
    "10530O 10564X 1056fO 1057bX 1057cO 1058bX 1058cO 10593X 10594O 10596X 10597O 105a2X 105a3O ",
    "105b2X 105b3O 105baX 105bbO 105bdX 10600O 10737X 10740O 10756X 10760O 10768X 10780O 10786X ",
    "10787O 107b1X 107b2O 107bbX 10800O 10806X 10808O 10809X 1080aO 10836X 10837O 10839X 1083cO ",
    "1083dX 1083fO 10856X 10857O 10858N 10860O 10879N 10880O 1089fX 108a7N 108b0X 108e0O 108f3X ",
    "108f4O 108f6X 108fbN 10900O 10916N 1091cX 1091fO 1093aX 1093fO 10940X 10980O 109b8X 109bcN ",
    "109beO 109c0N 109d0X 109d2N 10a00O 10a01E 10a04X 10a05E 10a07X 10a0cE 10a10O 10a14X 10a15O ",
    "10a18X 10a19O 10a36X 10a38E 10a3bX 10a3fE 10a40N 10a49X 10a50O 10a59X 10a60O 10a7dN 10a7fO ",
    "10a9dN 10aa0X 10ac0O 10ae5E 10ae7X 10aebN 10af0O 10af7X 10b00O 10b36X 10b39O 10b56X 10b58N ",
    "10b60O 10b73X 10b78N 10b80O 10b92X 10b99O 10b9dX 10ba9N 10bb0X 10c00O 10c49X 10c80O 10cb3X ",
    "10cc0O 10cf3X 10cfaN 10d00O 10d24E 10d28X 10d30N 10d3aX 10e60N 10e7fX 10e80O 10eaaX 10eabE ",
    "10eadO 10eaeX 10eb0O 10eb2X 10efdE 10f00O 10f1dN 10f27O 10f28X 10f30O 10f46E 10f51N 10f55O ",
    "10f5aX 10f70O 10f82E 10f86O 10f8aX 10fb0O 10fc5N 10fccX 10fe0O 10ff7X 11000M 11001E 11002M ",
    "11003O 11038E 11047O 1104eX 11052N 11070E 11071O 11073E 11075O 11076X 1107fE 11082M 11083O ",
    "110b0M 110b3E 110b7M 110b9E 110bbO 110bdX 110beO 110c2E 110c3X 110d0O 110e9X 110f0N 110faX ",
    "11100E 11103O 11127E 1112cM 1112dE 11135X 11136N 11140O 11145M 11147O 11148X 11150O 11173E ",
    "11174O 11177X 11180E 11182M 11183O 111b3M 111b6E 111bfM 111c1O 111c9E 111cdO 111ceM 111cfE ",
    "111d0N 111daO 111e0X 111e1N 111f5X 11200O 11212X 11213O 1122cM 1122fE 11232M 11234E 11238O ",
    "1123eE 1123fO 11241E 11242X 11280O 11287X 11288O 11289X 1128aO 1128eX 1128fO 1129eX 1129fO ",
    "112aaX 112b0O 112dfE 112e0M 112e3E 112ebX 112f0N 112faX 11300E 11302M 11304X 11305O 1130dX ",
    "1130fO 11311X 11313O 11329X 1132aO 11331X 11332O 11334X 11335O 1133aX 1133bE 1133dO 1133eE ",
    "1133fM 11340E 11341M 11345X 11347M 11349X 1134bM 1134dE 1134eX 11350O 11351X 11357E 11358X ",
    "1135dO 11362M 11364X 11366E 1136dX 11370E 11375X 11400O 11435M 11438E 11440M 11442E 11445M ",
    "11446E 11447O 11450N 1145aO 1145cX 1145dO 1145eE 1145fO 11462X 11480O 114b0E 114b1M 114b3E ",
    "114b9M 114baE 114bbM 114bdE 114beM 114bfE 114c1M 114c2E 114c4O 114c8X 114d0N 114daX 11580O ",
    "115afE 115b0M 115b2E 115b6X 115b8M 115bcE 115beM 115bfE 115c1O 115dcE 115deX 11600O 11630M ",
    "11633E 1163bM 1163dE 1163eM 1163fE 11641O 11645X 11650N 1165aX 11660O 1166dX 11680O 116abE ",
    "116acM 116adE 116aeM 116b0E 116b8O 116baX 116c0N 116caX 11700O 1171bX 1171dE 11720M 11722E ",
    "11726M 11727E 1172cX 11730N 1173cO 11747X 11800O 1182cM 1182fE 11838M 11839E 1183bO 1183cX ",
    "118a0O 118e0N 118f3X 118ffO 11907X 11909O 1190aX 1190cO 11914X 11915O 11917X 11918O 11930E ",
    "11931M 11936X 11937M 11939X 1193bE 1193fO 11940M 11941O 11942M 11943E 11944O 11947X 11950N ",
    "1195aX 119a0O 119a8X 119aaO 119d1M 119d4E 119d8X 119daE 119dcM 119e0E 119e1O 119e4M 119e5X ",
    "11a00O 11a01E 11a0bO 11a33E 11a39M 11a3aO 11a3bE 11a3fO 11a47E 11a48X 11a50O 11a51E 11a57M ",
    "11a59E 11a5cO 11a8aE 11a97M 11a98E 11a9aO 11aa3X 11ab0O 11af9X 11b00O 11b0aX 11c00O 11c09X ",
    "11c0aO 11c2fM 11c30E 11c37X 11c38E 11c3eM 11c3fE 11c40O 11c46X 11c50N 11c6dX 11c70O 11c90X ",
    "11c92E 11ca8X 11ca9M 11caaE 11cb1M 11cb2E 11cb4M 11cb5E 11cb7X 11d00O 11d07X 11d08O 11d0aX ",
    "11d0bO 11d31E 11d37X 11d3aE 11d3bX 11d3cE 11d3eX 11d3fE 11d46O 11d47E 11d48X 11d50N 11d5aX ",
    "11d60O 11d66X 11d67O 11d69X 11d6aO 11d8aM 11d8fX 11d90E 11d92X 11d93M 11d95E 11d96M 11d97E ",
    "11d98O 11d99X 11da0N 11daaX 11ee0O 11ef3E 11ef5M 11ef7O 11ef9X 11f00E 11f02O 11f03M 11f04O ",
    "11f11X 11f12O 11f34M 11f36E 11f3bX 11f3eM 11f40E 11f41M 11f42E 11f43O 11f50N 11f5aX 11fb0O ",
    "11fb1X 11fc0N 11fd5O 11ff2X 11fffO 1239aX 12400N 1246fX 12470O 12475X 12480O 12544X 12f90O ",
    "12ff3X 13000O 13430X 13440E 13441O 13447E 13456X 14400O 14647X 16800O 16a39X 16a40O 16a5fX ",
    "16a60N 16a6aX 16a6eO 16abfX 16ac0N 16acaX 16ad0O 16aeeX 16af0E 16af5O 16af6X 16b00O 16b30E ",
    "16b37O 16b46X 16b50N 16b5aX 16b5bN 16b62X 16b63O 16b78X 16b7dO 16b90X 16e40O 16e80N 16e97O ",
    "16e9bX 16f00O 16f4bX 16f4fE 16f50O 16f51M 16f88X 16f8fE 16f93O 16fa0X 16fe0O 16fe4E 16fe5X ",
    "16ff0M 16ff2X 17000O 187f8X 18800O 18cd6X 18d00O 18d09X 1aff0O 1aff4X 1aff5O 1affcX 1affdO ",
    "1afffX 1b000O 1b123X 1b132O 1b133X 1b150O 1b153X 1b155O 1b156X 1b164O 1b168X 1b170O 1b2fcX ",
    "1bc00O 1bc6bX 1bc70O 1bc7dX 1bc80O 1bc89X 1bc90O 1bc9aX 1bc9cO 1bc9dE 1bc9fO 1bca0X 1cf00E ",
    "1cf2eX 1cf30E 1cf47X 1cf50O 1cfc4X 1d000O 1d0f6X 1d100O 1d127X 1d129O 1d165E 1d166M 1d167E ",
    "1d16aO 1d16dE 1d173X 1d17bE 1d183O 1d185E 1d18cO 1d1aaE 1d1aeO 1d1ebX 1d200O 1d242E 1d245O ",
    "1d246X 1d2c0N 1d2d4X 1d2e0N 1d2f4X 1d300O 1d357X 1d360N 1d379X 1d400O 1d455X 1d456O 1d49dX ",
    "1d49eO 1d4a0X 1d4a2O 1d4a3X 1d4a5O 1d4a7X 1d4a9O 1d4adX 1d4aeO 1d4baX 1d4bbO 1d4bcX 1d4bdO ",
    "1d4c4X 1d4c5O 1d506X 1d507O 1d50bX 1d50dO 1d515X 1d516O 1d51dX 1d51eO 1d53aX 1d53bO 1d53fX ",
    "1d540O 1d545X 1d546O 1d547X 1d54aO 1d551X 1d552O 1d6a6X 1d6a8O 1d7ccX 1d7ceN 1d800O 1da00E ",
    "1da37O 1da3bE 1da6dO 1da75E 1da76O 1da84E 1da85O 1da8cX 1da9bE 1daa0X 1daa1E 1dab0X 1df00O ",
    "1df1fX 1df25O 1df2bX 1e000E 1e007X 1e008E 1e019X 1e01bE 1e022X 1e023E 1e025X 1e026E 1e02bX ",
    "1e030O 1e06eX 1e08fE 1e090X 1e100O 1e12dX 1e130E 1e137O 1e13eX 1e140N 1e14aX 1e14eO 1e150X ",
    "1e290O 1e2aeE 1e2afX 1e2c0O 1e2ecE 1e2f0N 1e2faX 1e2ffO 1e300X 1e4d0O 1e4ecE 1e4f0N 1e4faX ",
    "1e7e0O 1e7e7X 1e7e8O 1e7ecX 1e7edO 1e7efX 1e7f0O 1e7ffX 1e800O 1e8c5X 1e8c7N 1e8d0E 1e8d7X ",
    "1e900O 1e944E 1e94bO 1e94cX 1e950N 1e95aX 1e95eO 1e960X 1ec71N 1ecacO 1ecadN 1ecb0O 1ecb1N ",
    "1ecb5X 1ed01N 1ed2eO 1ed2fN 1ed3eX 1ee00O 1ee04X 1ee05O 1ee20X 1ee21O 1ee23X 1ee24O 1ee25X ",
    "1ee27O 1ee28X 1ee29O 1ee33X 1ee34O 1ee38X 1ee39O 1ee3aX 1ee3bO 1ee3cX 1ee42O 1ee43X 1ee47O ",
    "1ee48X 1ee49O 1ee4aX 1ee4bO 1ee4cX 1ee4dO 1ee50X 1ee51O 1ee53X 1ee54O 1ee55X 1ee57O 1ee58X ",
    "1ee59O 1ee5aX 1ee5bO 1ee5cX 1ee5dO 1ee5eX 1ee5fO 1ee60X 1ee61O 1ee63X 1ee64O 1ee65X 1ee67O ",
    "1ee6bX 1ee6cO 1ee73X 1ee74O 1ee78X 1ee79O 1ee7dX 1ee7eO 1ee7fX 1ee80O 1ee8aX 1ee8bO 1ee9cX ",
    "1eea1O 1eea4X 1eea5O 1eeaaX 1eeabO 1eebcX 1eef0O 1eef2X 1f000O 1f02cX 1f030O 1f094X 1f0a0O ",
    "1f0afX 1f0b1O 1f0c0X 1f0c1O 1f0d0X 1f0d1O 1f0f6X 1f100N 1f10dO 1f1aeX 1f1e6O 1f203X 1f210O ",
    "1f23cX 1f240O 1f249X 1f250O 1f252X 1f260O 1f266X 1f300O 1f6d8X 1f6dcO 1f6edX 1f6f0O 1f6fdX ",
    "1f700O 1f777X 1f77bO 1f7daX 1f7e0O 1f7ecX 1f7f0O 1f7f1X 1f800O 1f80cX 1f810O 1f848X 1f850O ",
    "1f85aX 1f860O 1f888X 1f890O 1f8aeX 1f8b0O 1f8b2X 1f900O 1fa54X 1fa60O 1fa6eX 1fa70O 1fa7dX ",
    "1fa80O 1fa89X 1fa90O 1fabeX 1fabfO 1fac6X 1faceO 1fadcX 1fae0O 1fae9X 1faf0O 1faf9X 1fb00O ",
    "1fb93X 1fb94O 1fbcbX 1fbf0N 1fbfaX 20000O 2a6e0X 2a700O 2b73aX 2b740O 2b81eX 2b820O 2cea2X ",
    "2ceb0O 2ebe1X 2f800O 2fa1eX 30000O 3134bX 31350O 323b0X e0020F e0080X e0100E e01f0X "]

end Unicode
end SplitDns
