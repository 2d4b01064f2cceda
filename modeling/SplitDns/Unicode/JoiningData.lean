/-!
# Joining types: data

The joining type of every code point as runs: each entry is the first code point of a run in
hex and the type letter, `C` join causing, `D` dual joining, `L` left joining, `R` right
joining, `T` transparent, `U` non-joining, which lasts until the next entry.
-/

namespace SplitDns
namespace Unicode

/-- The runs of joining types, as text. -/
def joiningRuns : String :=
  String.join [
    "0U adT aeU 300T 370U 483T 48aU 591T 5beU 5bfT 5c0U 5c1T 5c3U 5c4T 5c6U 5c7T 5c8U 610T 61bU 61cT ",
    "61dU 620D 621U 622R 626D 627R 628D 629R 62aD 62fR 633D 640C 641D 648R 649D 64bT 660U 66eD 670T ",
    "671R 674U 675R 678D 688R 69aD 6c0R 6c1D 6c3R 6ccD 6cdR 6ceD 6cfR 6d0D 6d2R 6d4U 6d5R 6d6T 6ddU ",
    "6dfT 6e5U 6e7T 6e9U 6eaT 6eeR 6f0U 6faD 6fdU 6ffD 700U 70fT 710R 711T 712D 715R 71aD 71eR 71fD ",
    "728R 729D 72aR 72bD 72cR 72dD 72fR 730T 74bU 74dR 74eD 759R 75cD 76bR 76dD 771R 772D 773R 775D ",
    "778R 77aD 780U 7a6T 7b1U 7caD 7ebT 7f4U 7faC 7fbU 7fdT 7feU 816T 81aU 81bT 824U 825T 828U 829T ",
    "82eU 840R 841D 846R 848D 849R 84aD 854R 855D 856R 859T 85cU 860D 861U 862D 866U 867R 868D 869R ",
    "86bU 870R 883C 886D 887U 889D 88eR 88fD 890U 897T 8a0D 8aaR 8adU 8aeR 8afD 8b1R 8b3D 8b9R 8baD ",
    "8c9U 8caT 8e2U 8e3T 903U 93aT 93bU 93cT 93dU 941T 949U 94dT 94eU 951T 958U 962T 964U 981T 982U ",
    "9bcT 9bdU 9c1T 9c5U 9cdT 9ceU 9e2T 9e4U 9feT 9ffU a01T a03U a3cT a3dU a41T a43U a47T a49U a4bT ",
    "a4eU a51T a52U a70T a72U a75T a76U a81T a83U abcT abdU ac1T ac6U ac7T ac9U acdT aceU ae2T ae4U ",
    "afaT b00U b01T b02U b3cT b3dU b3fT b40U b41T b45U b4dT b4eU b55T b57U b62T b64U b82T b83U bc0T ",
    "bc1U bcdT bceU c00T c01U c04T c05U c3cT c3dU c3eT c41U c46T c49U c4aT c4eU c55T c57U c62T c64U ",
    "c81T c82U cbcT cbdU cbfT cc0U cc6T cc7U cccT cceU ce2T ce4U d00T d02U d3bT d3dU d41T d45U d4dT ",
    "d4eU d62T d64U d81T d82U dcaT dcbU dd2T dd5U dd6T dd7U e31T e32U e34T e3bU e47T e4fU eb1T eb2U ",
    "eb4T ebdU ec8T ecfU f18T f1aU f35T f36U f37T f38U f39T f3aU f71T f7fU f80T f85U f86T f88U f8dT ",
    "f98U f99T fbdU fc6T fc7U 102dT 1031U 1032T 1038U 1039T 103bU 103dT 103fU 1058T 105aU 105eT ",
    "1061U 1071T 1075U 1082T 1083U 1085T 1087U 108dT 108eU 109dT 109eU 135dT 1360U 1712T 1715U 1732T ",
    "1734U 1752T 1754U 1772T 1774U 17b4T 17b6U 17b7T 17beU 17c6T 17c7U 17c9T 17d4U 17ddT 17deU 1807D ",
    "1808U 180aC 180bT 180eU 180fT 1810U 1820D 1879U 1885T 1887D 18a9T 18aaD 18abU 1920T 1923U 1927T ",
    "1929U 1932T 1933U 1939T 193cU 1a17T 1a19U 1a1bT 1a1cU 1a56T 1a57U 1a58T 1a5fU 1a60T 1a61U 1a62T ",
    "1a63U 1a65T 1a6dU 1a73T 1a7dU 1a7fT 1a80U 1ab0T 1adeU 1ae0T 1aecU 1b00T 1b04U 1b34T 1b35U 1b36T ",
    "1b3bU 1b3cT 1b3dU 1b42T 1b43U 1b6bT 1b74U 1b80T 1b82U 1ba2T 1ba6U 1ba8T 1baaU 1babT 1baeU 1be6T ",
    "1be7U 1be8T 1beaU 1bedT 1beeU 1befT 1bf2U 1c2cT 1c34U 1c36T 1c38U 1cd0T 1cd3U 1cd4T 1ce1U 1ce2T ",
    "1ce9U 1cedT 1ceeU 1cf4T 1cf5U 1cf8T 1cfaU 1dc0T 1e00U 200bT 200cU 200dC 200eT 2010U 202aT 202fU ",
    "2060T 2065U 206aT 2070U 20d0T 20f1U 2cefT 2cf2U 2d7fT 2d80U 2de0T 2e00U 302aT 302eU 3099T 309bU ",
    "a66fT a673U a674T a67eU a69eT a6a0U a6f0T a6f2U a802T a803U a806T a807U a80bT a80cU a825T a827U ",
    "a82cT a82dU a840D a872L a873U a8c4T a8c6U a8e0T a8f2U a8ffT a900U a926T a92eU a947T a952U a980T ",
    "a983U a9b3T a9b4U a9b6T a9baU a9bcT a9beU a9e5T a9e6U aa29T aa2fU aa31T aa33U aa35T aa37U aa43T ",
    "aa44U aa4cT aa4dU aa7cT aa7dU aab0T aab1U aab2T aab5U aab7T aab9U aabeT aac0U aac1T aac2U aaecT ",
    "aaeeU aaf6T aaf7U abe5T abe6U abe8T abe9U abedT abeeU fb1eT fb1fU fe00T fe10U fe20T fe30U feffT ",
    "ff00U fff9T fffcU 101fdT 101feU 102e0T 102e1U 10376T 1037bU 10a01T 10a04U 10a05T 10a07U 10a0cT ",
    "10a10U 10a38T 10a3bU 10a3fT 10a40U 10ac0D 10ac5R 10ac6U 10ac7R 10ac8U 10ac9R 10acbU 10acdL ",
    "10aceR 10ad3D 10ad7L 10ad8D 10addR 10adeD 10ae1R 10ae2U 10ae4R 10ae5T 10ae7U 10aebD 10aefR ",
    "10af0U 10b80D 10b81R 10b82D 10b83R 10b86D 10b89R 10b8aD 10b8cR 10b8dD 10b8eR 10b90D 10b91R ",
    "10b92U 10ba9R 10badD 10bafU 10d00L 10d01D 10d22R 10d23D 10d24T 10d28U 10d69T 10d6eU 10eabT ",
    "10eadU 10ec2R 10ec3D 10ec5U 10ec6D 10ec8U 10efaT 10f00U 10f30D 10f33R 10f34D 10f45U 10f46T ",
    "10f51D 10f54R 10f55U 10f70D 10f74R 10f76D 10f82T 10f86U 10fb0D 10fb1U 10fb2D 10fb4R 10fb7U ",
    "10fb8D 10fb9R 10fbbD 10fbdR 10fbeD 10fc0U 10fc1D 10fc2R 10fc4D 10fc5U 10fc9R 10fcaD 10fcbL ",
    "10fccU 11001T 11002U 11038T 11047U 11070T 11071U 11073T 11075U 1107fT 11082U 110b3T 110b7U ",
    "110b9T 110bbU 110c2T 110c3U 11100T 11103U 11127T 1112cU 1112dT 11135U 11173T 11174U 11180T ",
    "11182U 111b6T 111bfU 111c9T 111cdU 111cfT 111d0U 1122fT 11232U 11234T 11235U 11236T 11238U ",
    "1123eT 1123fU 11241T 11242U 112dfT 112e0U 112e3T 112ebU 11300T 11302U 1133bT 1133dU 11340T ",
    "11341U 11366T 1136dU 11370T 11375U 113bbT 113c1U 113ceT 113cfU 113d0T 113d1U 113d2T 113d3U ",
    "113e1T 113e3U 11438T 11440U 11442T 11445U 11446T 11447U 1145eT 1145fU 114b3T 114b9U 114baT ",
    "114bbU 114bfT 114c1U 114c2T 114c4U 115b2T 115b6U 115bcT 115beU 115bfT 115c1U 115dcT 115deU ",
    "11633T 1163bU 1163dT 1163eU 1163fT 11641U 116abT 116acU 116adT 116aeU 116b0T 116b6U 116b7T ",
    "116b8U 1171dT 1171eU 1171fT 11720U 11722T 11726U 11727T 1172cU 1182fT 11838U 11839T 1183bU ",
    "1193bT 1193dU 1193eT 1193fU 11943T 11944U 119d4T 119d8U 119daT 119dcU 119e0T 119e1U 11a01T ",
    "11a0bU 11a33T 11a39U 11a3bT 11a3fU 11a47T 11a48U 11a51T 11a57U 11a59T 11a5cU 11a8aT 11a97U ",
    "11a98T 11a9aU 11b60T 11b61U 11b62T 11b65U 11b66T 11b67U 11c30T 11c37U 11c38T 11c3eU 11c3fT ",
    "11c40U 11c92T 11ca8U 11caaT 11cb1U 11cb2T 11cb4U 11cb5T 11cb7U 11d31T 11d37U 11d3aT 11d3bU ",
    "11d3cT 11d3eU 11d3fT 11d46U 11d47T 11d48U 11d90T 11d92U 11d95T 11d96U 11d97T 11d98U 11ef3T ",
    "11ef5U 11f00T 11f02U 11f36T 11f3bU 11f40T 11f41U 11f42T 11f43U 11f5aT 11f5bU 13430T 13441U ",
    "13447T 13456U 1611eT 1612aU 1612dT 16130U 16af0T 16af5U 16b30T 16b37U 16f4fT 16f50U 16f8fT ",
    "16f93U 16fe4T 16fe5U 1bc9dT 1bc9fU 1bca0T 1bca4U 1cf00T 1cf2eU 1cf30T 1cf47U 1d167T 1d16aU ",
    "1d173T 1d183U 1d185T 1d18cU 1d1aaT 1d1aeU 1d242T 1d245U 1da00T 1da37U 1da3bT 1da6dU 1da75T ",
    "1da76U 1da84T 1da85U 1da9bT 1daa0U 1daa1T 1dab0U 1e000T 1e007U 1e008T 1e019U 1e01bT 1e022U ",
    "1e023T 1e025U 1e026T 1e02bU 1e08fT 1e090U 1e130T 1e137U 1e2aeT 1e2afU 1e2ecT 1e2f0U 1e4ecT ",
    "1e4f0U 1e5eeT 1e5f0U 1e6e3T 1e6e4U 1e6e6T 1e6e7U 1e6eeT 1e6f0U 1e6f5T 1e6f6U 1e8d0T 1e8d7U ",
    "1e900D 1e944T 1e94cU e0001T e0002U e0020T e0080U e0100T e01f0U "]

end Unicode
end SplitDns
