/-! Histories of the time zones by the first part of their names, in the written form of `Zone.Record`. -/
namespace Metering.Zone.Table

def africa : List (String × String) := [
  ("Africa/Abidjan", "-968 0;b-1830383032;"),
  ("Africa/Algiers", "732 561 0 3600 7200;b-2486592732 c630633771 d166144161 c9417600 d15033600 c17020800 d13219200 c18230400 d12614400 c18835200 d11404800 c21772800 d12268800 c8553600 d575078400 c5878800 d8474400 e129510000 d16239600 e15210000 d14421600 c33350400 d293850000 c227401200 d253497600 c13305600 d176950800 e27820800 d15728400 c34466400 d15728400 c16333200 d15721200;"),
  ("Africa/Bissau", "-3740 -3600 0;b-1830380400 c1988150400;"),
  ("Africa/Cairo", "7509 7200 10800;b-2185409109 c1255565109 b6735600 c16938000 b13302000 c17024400 b18054000 c13482000 b18486000 c13136400 b18486000 c14346000 b17190000 c363574800 b12438000 c18320400 b13215600 c18324000 b13136400 c18486000 b13136400 c18399600 b13136400 c18399600 b13136400 c18399600 b13136400 c18486000 b13136400 c18399600 b13136400 c18399600 b13222800 c18313200 b13222800 c18399600 b13222800 c18313200 b13222800 c18313200 b13222800 c18313200 b13222800 c18399600 b13222800 c18313200 b13222800 c18313200 b13222800 c18313200 b13222800 c18399600 b13222800 c18313200 b13222800 c18313200 b13222800 c18313200 b13222800 c18399600 b13222800 c18313200 b13222800 c25657200 b5878800 c24534000 b7002000 c18399600 b13222800 c18313200 b13222800 c18313200 b13222800 c18313200 b13222800 c18399600 b13222800 c18745200 b12790800 c18313200 b13222800 c18313200 b13222800 c18399600 b13222800 c18313200 b13222800 c18313200 b13222800 c18050400 b13302000 c18147600 b13302000 c18147600 b13302000 c18147600 b13302000 c18752400 b13302000 c18147600 b13302000 c18147600 b13302000 c18147600 b13302000 c18147600 b13302000 c18752400 b13302000 c18147600 b13302000 c18147600 b12697200 c18752400 b11487600 c19962000 b10882800 c20566800 b10278000 c21776400 b8895600 c2595600 b1810800 c114310800 b3625200 c3027600 b4834800;2023 4 24 5 -7200 c 10 25 4 75600 b"),
  ("Africa/Casablanca", "-1820 0 3600;b-1773012580 c816650980 b5871600 c8470800 b180831600 c143946000 b12092400 c523717200 b10321200 c212374800 b5958000 c52534800 b7945200 c23590800 b12956400 c21258000 b5526000 c177210000 b56674800 c707360400 b7945200 c23590800 b6994800 c21949200 b8463600 c20566800 b10278000 c23598000 b7084800 c2678400 b3542400 c18144000 b6048000 c2937600 b6739200 c13305600 b7776000 c3024000 b7344000 c13305600 b6652800 c3024000 b8467200 c13305600 b6048000 c3024000 b9676800 c12700800 b4838400 c3628800 b10281600 c12700800 b4233600 c3024000 b27820800 c3024000 b27216000 c3628800 b27216000 c3024000 b27216000 c3628800 b27216000 c3024000 b27820800 c3024000 b27216000 c3628800 b27216000 c3024000 b27820800 c3024000 b27216000 c3628800 b27216000 c3024000 b27216000 c3628800 b27216000 c3024000 b27820800 c3024000 b27216000 c3628800 b27216000 c3024000 b27216000 c3628800 b27216000 c3628800 b27216000 c3024000 b27216000 c3628800 b27216000 c3024000 b27820800 c3024000 b27216000 c3628800 b27216000 c3024000 b27216000 c3628800 b27216000 c3628800 b27216000 c3024000 b27216000 c3628800 b27216000 c3024000 b27820800 c3024000 b27216000 c3628800 b27216000 c3024000 b27216000 c3628800 b27216000 c3628800 b27216000 c3024000 b27216000 c3628800 b27216000 c3024000 b27820800 c3024000 b27216000 c3628800 b27216000 c3024000 b27216000 c3628800 b27216000 c3628800 b27216000 c3024000 b27216000 c3628800 b27216000 c3024000 b27820800 c3024000 b27216000 c3628800 b27216000 c3024000 b27216000 c3628800 b27216000 c3628800 b27216000 c3024000 b27216000 c3628800 b27216000 c3024000 b27820800 c3024000 b27216000 c3628800 b27216000 c3024000 b27216000 c3628800 b27216000 c3628800 b27216000 c3024000 b27216000 c3628800 b27216000 c3024000 b27820800 c3024000 b27216000 c3628800 b27216000 c3024000 b27216000 c3628800 b27216000 c3024000 b27820800 c3024000 b27216000 c3628800 b27216000 c3024000 b27820800 c3024000 b27216000 c3628800;"),
  ("Africa/Ceuta", "-1276 0 3600 7200;b-2177452800 c547340400 b13302000 c174358800 b14778000 c48380400 b14518800 c16326000 b15123600 c16934400 b15120000 c1219838400 b10321200 c212374800 b5958000 c52534800 b7945200 c23590800 b12956400 c21258000 b5526000 c177210000 d64285200 c15724800 d15724800 c15724800 d15724800 c15724800 d15724800 c15724800 d15724800 c16329600 d15724800 c15724800 d15724800 c15724800 d15724800 c15724800 d15724800 c15724800 d15724800 c15724800;1996 3 25 0 3600 d 10 25 0 3600 c"),
  ("Africa/El_Aaiun", "-3168 -3600 0 3600;b-1136070432 c1334362032 d1465200 c7945200 d23590800 c12956400 d21258000 c5526000 d941245200 c7945200 d23590800 c6994800 d21949200 c8463600 d20566800 c10278000 d23598000 c7084800 d2678400 c3542400 d18144000 c6048000 d2937600 c6739200 d13305600 c7776000 d3024000 c7344000 d13305600 c6652800 d3024000 c8467200 d13305600 c6048000 d3024000 c9676800 d12700800 c4838400 d3628800 c10281600 d12700800 c4233600 d3024000 c27820800 d3024000 c27216000 d3628800 c27216000 d3024000 c27216000 d3628800 c27216000 d3024000 c27820800 d3024000 c27216000 d3628800 c27216000 d3024000 c27820800 d3024000 c27216000 d3628800 c27216000 d3024000 c27216000 d3628800 c27216000 d3024000 c27820800 d3024000 c27216000 d3628800 c27216000 d3024000 c27216000 d3628800 c27216000 d3628800 c27216000 d3024000 c27216000 d3628800 c27216000 d3024000 c27820800 d3024000 c27216000 d3628800 c27216000 d3024000 c27216000 d3628800 c27216000 d3628800 c27216000 d3024000 c27216000 d3628800 c27216000 d3024000 c27820800 d3024000 c27216000 d3628800 c27216000 d3024000 c27216000 d3628800 c27216000 d3628800 c27216000 d3024000 c27216000 d3628800 c27216000 d3024000 c27820800 d3024000 c27216000 d3628800 c27216000 d3024000 c27216000 d3628800 c27216000 d3628800 c27216000 d3024000 c27216000 d3628800 c27216000 d3024000 c27820800 d3024000 c27216000 d3628800 c27216000 d3024000 c27216000 d3628800 c27216000 d3628800 c27216000 d3024000 c27216000 d3628800 c27216000 d3024000 c27820800 d3024000 c27216000 d3628800 c27216000 d3024000 c27216000 d3628800 c27216000 d3628800 c27216000 d3024000 c27216000 d3628800 c27216000 d3024000 c27820800 d3024000 c27216000 d3628800 c27216000 d3024000 c27216000 d3628800 c27216000 d3024000 c27820800 d3024000 c27216000 d3628800 c27216000 d3024000 c27820800 d3024000 c27216000 d3628800;"),
  ("Africa/Johannesburg", "6720 5400 7200 10800;b-2458173120 c348884520 d1248312600 c15721200 d15728400 c15721200;"),
  ("Africa/Juba", "7588 7200 10800;b-1230775588 c1241136388 b14425200 c17024400 b14511600 c17110800 b14511600 c16938000 b14598000 c16851600 b14684400 c16765200 b14770800 c16678800 b14943600 c16506000 b15030000 c17024400 b14511600 c16938000 b14598000 c16851600 b14770800 c16678800 b14857200 c16592400 b14943600 c16506000 b15030000 c17024400 b14598000 c16851600 b14684400 c449758800 b664196400;"),
  ("Africa/Khartoum", "7808 7200 10800;b-1230775808 c1241136608 b14425200 c17024400 b14511600 c17110800 b14511600 c16938000 b14598000 c16851600 b14684400 c16765200 b14770800 c16678800 b14943600 c16506000 b15030000 c17024400 b14511600 c16938000 b14598000 c16851600 b14770800 c16678800 b14857200 c16592400 b14943600 c16506000 b15030000 c17024400 b14598000 c16851600 b14684400 c449758800 b561553200;"),
  ("Africa/Lagos", "815 0 1800 3600;b-2035584815 a94695215 c173663185 d178760615;"),
  ("Africa/Maputo", "7818 7200;b-1924999818;"),
  ("Africa/Monrovia", "-2588 -2670 0;b-1604359012 c1667952082;"),
  ("Africa/Nairobi", "8836 9000 10800 9900;b-1946168836 c636422236 b47777400 d220581000 c176082300;"),
  ("Africa/Ndjamena", "3612 3600 7200;b-1830387612 c2139091212 b12610800;"),
  ("Africa/Sao_Tome", "1616 -2205 0 3600;b-2713912016 c883528016 d3345152400 c31536000;"),
  ("Africa/Tripoli", "3164 3600 7200;b-1577926364 c1003024364 b6814800 c55911600 b7246800 c55040400 b8031600 c94698000 b725842800 c7779600 b15807600 c15728400 b15807600 c15814800 b15807600 c16160400 b15375600 c15987600 b15721200 c15555600 b15807600 c15814800 b15807600 c15728400 b15807600 c18579600 b202258800 c16074000 b492397200 c12009600;"),
  ("Africa/Tunis", "2444 561 3600 7200;b-2797202444 c941243483 d886716561 c18748800 d8553600 c50803200 d13309200 c20570400 d12700800 c1638000 d694800 c13993200 d15728400 c16232400 d15217200 c14418000 d997837200 c12700800 d18921600 c13219200 d305078400 c10022400 d15724800 c15724800 d18921600 c13132800 d460252800 c13136400 d15296400 c18748800 d12700800 c18748800 d13305600 c18144000;"),
  ("Africa/Windhoek", "4104 5400 7200 10800 3600;b-2458170504 c348881904 d1248312600 c15721200 e1609455600 c14439600 e18140400 c13309200 e18745200 c12704400 e18745200 c13309200 e18140400 c13309200 e18140400 c13309200 e18140400 c13309200 e18140400 c13309200 e18745200 c12704400 e18745200 c13309200 e18140400 c13309200 e18140400 c13309200 e18140400 c13309200 e18140400 c13309200 e18745200 c13309200 e18140400 c13309200 e18140400 c13309200 e18140400 c13309200 e18140400 c13309200 e18745200 c12704400 e18745200 c13309200 e18140400 c13309200 e18140400 c13309200 e18140400 c13309200;")]

def america : List (String × String) := [
  ("America/Adak", "44002 -42398 -39600 -36000 -32400;b-3225223727 c1036278925 d1308748402 c114822000 d743907600 c15721200 d15728400 c15721200 d15728400 c16326000 d15728400 c15721200 d15728400 c15721200 d6051600 c25398000 d10285200 c21164400 d15728400 c16326000 d15123600 c16326000 d15728400 c15721200 d15728400 c15721200 d15728400 c15721200 d15728400 c15721200 d15728400 c16326000 d15123600 e32050800 d15721200 e15728400 d15721200 e15728400 d15721200 e13914000 d17535600 e13914000 d18140400 e13309200 d18140400 e13309200 d18140400 e13914000 d17535600 e13914000 d17535600 e13914000 d18140400 e13309200 d18140400 e13309200 d18140400 e13914000 d17535600 e13914000 d17535600 e13914000 d17535600 e13914000 d18140400 e13309200 d18140400 e13309200 d18140400 e13914000 d17535600 e13914000 d17535600 e13914000 d18140400 e13309200 d18140400 e13309200 d18140400;2007 3 8 0 43200 e 11 1 0 39600 d"),
  ("America/Anchorage", "50424 -35976 -36000 -32400 -28800;b-3225223727 c1036272503 d1308751224 c114822000 d743907600 c15721200 d15728400 c15721200 d15728400 c16326000 d15728400 c15721200 d15728400 c15721200 d6051600 c25398000 d10285200 c21164400 d15728400 c16326000 d15123600 c16326000 d15728400 c15721200 d15728400 c15721200 d15728400 c15721200 d15728400 c15721200 d15728400 c16326000 d15123600 e32050800 d15721200 e15728400 d15721200 e15728400 d15721200 e13914000 d17535600 e13914000 d18140400 e13309200 d18140400 e13309200 d18140400 e13914000 d17535600 e13914000 d17535600 e13914000 d18140400 e13309200 d18140400 e13309200 d18140400 e13914000 d17535600 e13914000 d17535600 e13914000 d17535600 e13914000 d18140400 e13309200 d18140400 e13309200 d18140400 e13914000 d17535600 e13914000 d17535600 e13914000 d18140400 e13309200 d18140400 e13309200 d18140400;2007 3 8 0 39600 e 11 1 0 36000 d"),
  ("America/Araguaina", "-11568 -10800 -7200;b-1767214032 c560256432 b15595200 c15987600 b15548400 c526006800 b11750400 c19785600 b10450800 c21085200 b10537200 c21085200 b7772400 c339987600 b7167600 c29034000 b5094000 c21171600 b7772400 c21171600 b10364400 c21171600 b10450800 c557715600 b11487600 c19357200 b9673200 c21862800 b9068400 c21776400 b9068400 c22381200 b10278000 c179024400 b10278000 c20566800 b11487600 c20048400 b12610800 c19357200 b11487600 c19357200 b12697200 c19357200 b11487600 c20566800 b10882800 c22381200 b9068400 c305427600 b10278000;"),
  ("America/Argentina/Buenos_Aires", "-14028 -15408 -14400 -10800 -7200;b-2372097972 c804644580 d334021392 c10450800 d17024400 c11919600 d21171600 c10364400 d21171600 c10364400 d21171600 c10364400 d21171600 c10450800 d21171600 c10364400 d21171600 c10364400 d21171600 c10364400 d21171600 c10450800 d10544400 c30150000 d10544400 c56588400 d6483600 c74991600 d18493200 c536454000 d6483600 c6649200 d19702800 c11833200 d19702800 c11833200 d19702800 c14598000 d15728400 c16326000 d15728400 c15721200 d15728400 e135730800 d8463600 e460342800 d8118000 e19357200 d12092400 e19962000 d11487600 e19962000 d11487600 e19962000 d12092400 e467514000 d6649200 e18752400 d12697200;"),
  ("America/Argentina/Catamarca", "-15788 -15408 -14400 -10800 -7200;b-2372096212 c804642820 d334021392 c10450800 d17024400 c11919600 d21171600 c10364400 d21171600 c10364400 d21171600 c10364400 d21171600 c10450800 d21171600 c10364400 d21171600 c10364400 d21171600 c10364400 d21171600 c10450800 d10544400 c30150000 d10544400 c56588400 d6483600 c74991600 d18493200 c536454000 d6483600 c6649200 d19702800 c11833200 d19702800 c11833200 d19702800 c14598000 d15728400 c16326000 d15728400 c15721200 d15728400 e135730800 d8463600 e460342800 d8118000 e19357200 d12092400 e19962000 c11487600 e19965600 d11484000 e19962000 d12092400 c354589200 d1645200 e111279600 d6649200;"),
  ("America/Argentina/Cordoba", "-15408 -14400 -10800 -7200;b-1567453392 c334021392 b10450800 c17024400 b11919600 c21171600 b10364400 c21171600 b10364400 c21171600 b10364400 c21171600 b10450800 c21171600 b10364400 c21171600 b10364400 c21171600 b10364400 c21171600 b10450800 c10544400 b30150000 c10544400 b56588400 c6483600 b74991600 c18493200 b536454000 c6483600 b6649200 c19702800 b11833200 c19702800 b11833200 c19702800 b14598000 c15728400 b16326000 c15728400 b15721200 c15728400 d135730800 c8463600 d460342800 c8118000 d19357200 c12092400 d19962000 b11487600 d19965600 c11484000 d19962000 c12092400 d467514000 c6649200 d18752400 c12697200;"),
  ("America/Argentina/Jujuy", "-15672 -15408 -14400 -10800 -7200;b-2372096328 c804642936 d334021392 c10450800 d17024400 c11919600 d21171600 c10364400 d21171600 c10364400 d21171600 c10364400 d21171600 c10450800 d21171600 c10364400 d21171600 c10364400 d21171600 c10364400 d21171600 c10450800 d10544400 c30150000 d10544400 c56588400 d6483600 c74991600 d18493200 c536454000 d6483600 c6649200 d19702800 c11833200 d19702800 c11833200 d19702800 c14598000 d15728400 c16326000 d15728400 c15721200 d15728400 e135730800 d8463600 e460342800 d8118000 e19357200 c12092400 d20570400 c12092400 e17542800 d12693600 e19962000 d12092400 e467514000 d6649200;"),
  ("America/Argentina/La_Rioja", "-16044 -15408 -14400 -10800 -7200;b-2372095956 c804642564 d334021392 c10450800 d17024400 c11919600 d21171600 c10364400 d21171600 c10364400 d21171600 c10364400 d21171600 c10450800 d21171600 c10364400 d21171600 c10364400 d21171600 c10364400 d21171600 c10450800 d10544400 c30150000 d10544400 c56588400 d6483600 c74991600 d18493200 c536454000 d6483600 c6649200 d19702800 c11833200 d19702800 c11833200 d19702800 c14598000 d15728400 c16326000 d15728400 c15721200 d15728400 e135730800 d8463600 e460342800 d8118000 e19357200 d12092400 e19962000 c11314800 d5796000 e14338800 d11487600 e19962000 d12092400 c354589200 d1645200 e111279600 d6649200;"),
  ("America/Argentina/Mendoza", "-16516 -15408 -14400 -10800 -7200;b-2372095484 c804642092 d334021392 c10450800 d17024400 c11919600 d21171600 c10364400 d21171600 c10364400 d21171600 c10364400 d21171600 c10450800 d21171600 c10364400 d21171600 c10364400 d21171600 c10364400 d21171600 c10450800 d10544400 c30150000 d10544400 c56588400 d6483600 c74991600 d18493200 c536454000 d6483600 c6649200 d19702800 c11833200 d19702800 c11833200 d19702800 c14598000 d15728400 c16326000 d15728400 c15721200 d15728400 e135730800 d8463600 e460342800 d8118000 e19357200 c12092400 d19447200 c11833200 d19702800 c11919600 e19962000 d12088800 c353811600 d10890000 e102812400 d6649200;"),
  ("America/Argentina/Rio_Gallegos", "-16612 -15408 -14400 -10800 -7200;b-2372095388 c804641996 d334021392 c10450800 d17024400 c11919600 d21171600 c10364400 d21171600 c10364400 d21171600 c10364400 d21171600 c10450800 d21171600 c10364400 d21171600 c10364400 d21171600 c10364400 d21171600 c10450800 d10544400 c30150000 d10544400 c56588400 d6483600 c74991600 d18493200 c536454000 d6483600 c6649200 d19702800 c11833200 d19702800 c11833200 d19702800 c14598000 d15728400 c16326000 d15728400 c15721200 d15728400 e135730800 d8463600 e460342800 d8118000 e19357200 d12092400 e19962000 d11487600 e19962000 d11487600 e19962000 d12092400 c354589200 d1645200 e111279600 d6649200;"),
  ("America/Argentina/Salta", "-15700 -15408 -14400 -10800 -7200;b-2372096300 c804642908 d334021392 c10450800 d17024400 c11919600 d21171600 c10364400 d21171600 c10364400 d21171600 c10364400 d21171600 c10450800 d21171600 c10364400 d21171600 c10364400 d21171600 c10364400 d21171600 c10450800 d10544400 c30150000 d10544400 c56588400 d6483600 c74991600 d18493200 c536454000 d6483600 c6649200 d19702800 c11833200 d19702800 c11833200 d19702800 c14598000 d15728400 c16326000 d15728400 c15721200 d15728400 e135730800 d8463600 e460342800 d8118000 e19357200 d12092400 e19962000 c11487600 e19965600 d11484000 e19962000 d12092400 e467514000 d6649200;"),
  ("America/Argentina/San_Juan", "-16444 -15408 -14400 -10800 -7200;b-2372095556 c804642164 d334021392 c10450800 d17024400 c11919600 d21171600 c10364400 d21171600 c10364400 d21171600 c10364400 d21171600 c10450800 d21171600 c10364400 d21171600 c10364400 d21171600 c10364400 d21171600 c10450800 d10544400 c30150000 d10544400 c56588400 d6483600 c74991600 d18493200 c536454000 d6483600 c6649200 d19702800 c11833200 d19702800 c11833200 d19702800 c14598000 d15728400 c16326000 d15728400 c15721200 d15728400 e135730800 d8463600 e460342800 d8118000 e19357200 d12092400 e19962000 c11314800 d5796000 e14338800 d11487600 e19962000 d12092400 c354502800 d4755600 e108255600 d6649200;"),
  ("America/Argentina/San_Luis", "-15924 -15408 -14400 -10800 -7200;b-2372096076 c804642684 d334021392 c10450800 d17024400 c11919600 d21171600 c10364400 d21171600 c10364400 d21171600 c10364400 d21171600 c10450800 d21171600 c10364400 d21171600 c10364400 d21171600 c10364400 d21171600 c10450800 d10544400 c30150000 d10544400 c56588400 d6483600 c74991600 d18493200 c536454000 d6483600 c6649200 d19702800 c11833200 d19702800 c11833200 d19702800 c14598000 d15728400 c16326000 d15728400 c15721200 d15728400 e135730800 d8463600 e460342800 d8118000 e19357200 c12956400 d18583200 c11833200 d7952400 c410223600 d4755600 e108255600 d1897200 c4150800 d18752400 c12697200 d18752400;"),
  ("America/Argentina/Tucuman", "-15652 -15408 -14400 -10800 -7200;b-2372096348 c804642956 d334021392 c10450800 d17024400 c11919600 d21171600 c10364400 d21171600 c10364400 d21171600 c10364400 d21171600 c10450800 d21171600 c10364400 d21171600 c10364400 d21171600 c10364400 d21171600 c10450800 d10544400 c30150000 d10544400 c56588400 d6483600 c74991600 d18493200 c536454000 d6483600 c6649200 d19702800 c11833200 d19702800 c11833200 d19702800 c14598000 d15728400 c16326000 d15728400 c15721200 d15728400 e135730800 d8463600 e460342800 d8118000 e19357200 d12092400 e19962000 c11487600 e19965600 d11484000 e19962000 d12092400 c354589200 d1040400 e111884400 d6649200 e18752400 d12697200;"),
  ("America/Argentina/Ushuaia", "-16392 -15408 -14400 -10800 -7200;b-2372095608 c804642216 d334021392 c10450800 d17024400 c11919600 d21171600 c10364400 d21171600 c10364400 d21171600 c10364400 d21171600 c10450800 d21171600 c10364400 d21171600 c10364400 d21171600 c10364400 d21171600 c10450800 d10544400 c30150000 d10544400 c56588400 d6483600 c74991600 d18493200 c536454000 d6483600 c6649200 d19702800 c11833200 d19702800 c11833200 d19702800 c14598000 d15728400 c16326000 d15728400 c15721200 d15728400 e135730800 d8463600 e460342800 d8118000 e19357200 d12092400 e19962000 d11487600 e19962000 d11487600 e19962000 d12092400 c354416400 d1818000 e111279600 d6649200;"),
  ("America/Asuncion", "-13840 -14400 -10800;b-1206389360 c1293149360 b47257200 c47350800 b13129200 c18493200 b13042800 c18493200 b13042800 c18493200 b15721200 c15814800 b15807600 c15814800 b15721200 c15814800 b15721200 c15814800 b15721200 c15814800 b15807600 c15814800 b15721200 c15814800 b15721200 c15814800 b15721200 c15814800 b15807600 c15814800 b15721200 c17629200 b13906800 c15814800 b15721200 c16246800 b12697200 c18838800 b15289200 c15901200 b12870000 c18666000 b12783600 c18752400 b13129200 c18925200 b12092400 c19357200 b12697200 c18752400 b13302000 c18147600 b13302000 c18147600 b13302000 c18752400 b15721200 c12704400 b18745200 c13309200 b18140400 c16938000 b12697200 c18752400 b12697200 c18752400 b12697200 c19357200 b12092400 c19357200 b12092400 c19357200 b15116400 c15123600 b16326000 c15123600 b16326000 c15728400 b14511600 c16938000 b14511600 c16938000 b14511600 c16938000 b15116400 c16333200 b15116400 c16333200 b15116400 c16938000 b14511600 c16938000 b14511600 c16938000 b15116400 c16333200 b15116400 c16333200 b15116400 c16333200 b15116400 c16938000;"),
  ("America/Bahia", "-9244 -10800 -7200;b-1767216356 c560258756 b15595200 c15987600 b15548400 c526006800 b11750400 c19785600 b10450800 c21085200 b10537200 c21085200 b7772400 c339987600 b7167600 c29034000 b5094000 c21171600 b7772400 c21171600 b10364400 c21171600 b10450800 c557715600 b11487600 c19357200 b9673200 c21862800 b9068400 c21776400 b9068400 c22381200 b10278000 c21776400 b10278000 c21171600 b9673200 c22381200 b8463600 c22381200 b10882800 c20566800 b10882800 c20566800 b10278000 c20566800 b11487600 c20048400 b12610800 c19357200 b11487600 c19357200 b12697200 c19357200 b11487600 c20566800 b10882800 c22381200 b9068400 c273373200 b11487600;"),
  ("America/Bahia_Banderas", "-25260 -25200 -21600 -18000;b-1514739600 c171590400 b108342000 c14346000 b13302000 c15814800 b317516400 c1702695600 b17535600 c13914000 b17535600 c13914000 b17535600 c13914000 b18140400 c13309200 b18140400 c16333200 b12697200 c16333200 b17535600 c13914000 b17535600 c13914000 b18140400 c13309200 b18140400 c13309200 b18140400 c13309200 b18140400 c13914000 b17535600 c13914000 b17535600 d13914000 c18136800 d13309200 c18140400 d13309200 c18140400 d13914000 c17535600 d13914000 c17535600 d13914000 c17535600 d13914000 c18140400 d13309200 c18140400 d13309200 c18140400 d13914000 c17535600 d13914000 c17535600 d13914000 c18140400 d13309200 c18140400;"),
  ("America/Barbados", "-14309 -14400 -10800 -12600;b-1841256091 c966992491 b11581200 c21078000 b10890000 d18831600 b13222800 c1033603200 b9673200 c16938000 b14511600 c16938000 b14511600 c17542800 b13647600;"),
  ("America/Belem", "-11636 -10800 -7200;b-1767213964 c560256364 b15595200 c15987600 b15548400 c526006800 b11750400 c19785600 b10450800 c21085200 b10537200 c21085200 b7772400 c339987600 b7167600 c29034000 b5094000 c21171600 b7772400 c21171600 b10364400 c21171600 b10450800 c557715600 b11487600 c19357200 b9673200 c21862800 b9068400;"),
  ("America/Belize", "-21168 -21600 -19800 -18000;b-1822500432 c205546032 b10884600 c20565000 b11489400 c19960200 b11489400 c19960200 b11489400 c20565000 b10884600 c20565000 b10884600 c20565000 b11489400 c19960200 b11489400 c19960200 b11489400 c19960200 b11489400 c20565000 b10884600 c20565000 b10884600 c20565000 b11489400 c19960200 b11489400 c19960200 b11489400 c20565000 b10884600 c20565000 b10884600 c20565000 b10884600 c20565000 b11489400 c19960200 b11489400 c19960200 b11489400 c20565000 b10884600 c20565000 b10884600 c20565000 b11489400 d11493000 b109465200 c56854800 b11489400 c19960200 b11489400 c19960200 b11489400 c20565000 b10884600 c20565000 b10884600 c20565000 b11489400 c19960200 b11489400 c19960200 b11489400 c19960200 b11489400 c20565000 b10884600 c20565000 b10884600 c20565000 b11489400 c19960200 b11489400 c19960200 b11489400 c20565000 b10884600 c20565000 b10884600 c20565000 b10884600 c20565000 b11489400 c19960200 b11489400 c19960200 b11489400 c20565000 b10884600 d183515400 b5698800 d279421200 b4834800;"),
  ("America/Boa_Vista", "-14560 -14400 -10800;b-1767211040 c560257040 b15595200 c15987600 b15548400 c526006800 b11750400 c19785600 b10450800 c21085200 b10537200 c21085200 b7772400 c339987600 b7167600 c29034000 b5094000 c21171600 b7772400 c21171600 b10364400 c21171600 b10450800 c557715600 b11487600 c19357200 b9673200 c21862800 b9068400 c367722000 b12697200 c19357200 b601200;"),
  ("America/Bogota", "-17776 -18000 -14400;b-1739041424 c2443910624 b24188400;"),
  ("America/Boise", "-27889 -28800 -25200 -21600;b-2717640000 c1084370400 b18140400 c13309200 b18140400 c111891600 d591577200 c114822000 d681008400 c15721200 d15728400 c15721200 d15728400 c15721200 d15728400 c15721200 d15728400 c16326000 d15728400 c15721200 d15728400 c15721200 d8470800 c22978800 d10285200 c21164400 d15728400 c16326000 d15123600 c16326000 d15728400 c15721200 d15728400 c15721200 d15728400 c15721200 d15728400 c15721200 d15728400 c16326000 d15123600 c16326000 d15728400 c15721200 d15728400 c15721200 d15728400 c15721200 d13914000 c17535600 d13914000 c18140400 d13309200 c18140400 d13309200 c18140400 d13914000 c17535600 d13914000 c17535600 d13914000 c18140400 d13309200 c18140400 d13309200 c18140400 d13914000 c17535600 d13914000 c17535600 d13914000 c17535600 d13914000 c18140400 d13309200 c18140400 d13309200 c18140400 d13914000 c17535600 d13914000 c17535600 d13914000 c18140400 d13309200 c18140400 d13309200 c18140400;2007 3 8 0 32400 d 11 1 0 28800 c"),
  ("America/Cambridge_Bay", "0 -25200 -21600 -18000;b-1577923200 c697712400 b114822000 c838861200 b15721200 c15728400 b15721200 c15728400 b15721200 c15728400 b15721200 c15728400 b16326000 c15123600 b16326000 c15728400 b15721200 c15728400 b15721200 c15728400 b15721200 c15728400 b15721200 c15728400 b16326000 c15123600 b16326000 c15728400 b15721200 c15728400 b15721200 c15728400 b15721200 c13914000 b17535600 c13914000 b18140400 c13309200 b18140400 c13309200 b18140400 c13914000 b17535600 c13914000 b17535600 c13914000 b18140400 c13309200 b18140400 c13309200 b18140400 c13914000 b17535600 c13914000 b17535600 c13914000 b17535600 c13914000 d31446000 c18738000 b30855600 c13914000 b17535600 c13914000 b17535600 c13914000 b18140400 c13309200 b18140400 c13309200 b18140400;2007 3 8 0 32400 c 11 1 0 28800 b"),
  ("America/Campo_Grande", "-13108 -14400 -10800;b-1767212492 c560258492 b15595200 c15987600 b15548400 c526006800 b11750400 c19785600 b10450800 c21085200 b10537200 c21085200 b7772400 c339987600 b7167600 c29034000 b5094000 c21171600 b7772400 c21171600 b10364400 c21171600 b10450800 c557715600 b11487600 c19357200 b9673200 c21862800 b9068400 c21776400 b9068400 c22381200 b10278000 c21776400 b10278000 c21171600 b9673200 c22381200 b8463600 c22381200 b10882800 c20566800 b10882800 c20566800 b10278000 c20566800 b11487600 c20048400 b12610800 c19357200 b11487600 c19357200 b12697200 c19357200 b11487600 c20566800 b10882800 c22381200 b9068400 c21171600 b10278000 c22554000 b9500400 c20566800 b10882800 c22381200 b9673200 c19962000 b10882800 c21171600 b10278000 c21171600 b10882800 c20566800 b10882800 c20566800 b11487600 c20566800 b10278000 c21171600 b10278000 c21171600 b10882800 c20566800 b10882800 c20566800 b10882800 c20566800 b10882800 c22381200 b9068400;"),
  ("America/Cancun", "-20824 -21600 -18000 -14400;b-1514743200 c1892944800 b32302800 c418359600 b17535600 c13914000 d31446000 c10278000 b7261200 c13914000 b18140400 c13309200 b18140400 c16333200 b12697200 c16333200 b17535600 c13914000 b17535600 c13914000 b18140400 c13309200 b18140400 c13309200 b18140400 c13309200 b18140400 c13914000 b17535600 c13914000 b17535600 c13914000 b18140400 c13309200 b18140400 c13309200 b18140400 c13914000 b17535600 c13914000 b17535600 c8470800;"),
  ("America/Caracas", "-16064 -16060 -16200 -14400;b-2524505536 c697766396 d1668988940 c1354933800 d264902400;"),
  ("America/Cayenne", "-12560 -14400 -10800;b-1846269040 c1775176240;"),
  ("America/Chicago", "-21036 -21600 -18000;b-2717647200 c1084370400 b18140400 c13309200 b18140400 c19962000 b12092400 c12704400 b18745200 c15728400 b12697200 c18752400 b13302000 c18147600 b13302000 c18147600 b13302000 c18147600 b13302000 c18147600 b13302000 c18752400 b13302000 c18147600 b13302000 c18147600 b13302000 c18147600 b13302000 c18147600 b13302000 c18752400 b12697200 c18752400 b13302000 c18147600 b13302000 c13309200 b22374000 c13914000 b13302000 c18147600 b13302000 c18752400 b12697200 c18752400 b13302000 c18147600 b13302000 c11581200 b114822000 c18147600 b13302000 c18147600 b13302000 c18147600 b13302000 c18147600 b13302000 c18752400 b12697200 c18752400 b13302000 c18147600 b13302000 c18147600 b13302000 c18147600 b13302000 c18147600 b16326000 c15728400 b15721200 c15728400 b15721200 c15728400 b15721200 c15728400 b15721200 c15728400 b16326000 c15728400 b15721200 c15728400 b15721200 c15728400 b15721200 c15728400 b15721200 c15728400 b16326000 c15123600 b16326000 c15728400 b15721200 c15728400 b15721200 c15728400 b15721200 c15728400 b15721200 c15728400 b16326000 c15728400 b15721200 c15728400 b15721200 c6051600 b25398000 c10285200 b21164400 c15728400 b16326000 c15123600 b16326000 c15728400 b15721200 c15728400 b15721200 c15728400 b15721200 c15728400 b15721200 c15728400 b16326000 c15123600 b16326000 c15728400 b15721200 c15728400 b15721200 c15728400 b15721200 c13914000 b17535600 c13914000 b18140400 c13309200 b18140400 c13309200 b18140400 c13914000 b17535600 c13914000 b17535600 c13914000 b18140400 c13309200 b18140400 c13309200 b18140400 c13914000 b17535600 c13914000 b17535600 c13914000 b17535600 c13914000 b18140400 c13309200 b18140400 c13309200 b18140400 c13914000 b17535600 c13914000 b17535600 c13914000 b18140400 c13309200 b18140400 c13309200 b18140400;2007 3 8 0 28800 c 11 1 0 25200 b"),
  ("America/Chihuahua", "-25460 -25200 -21600 -18000;b-1514739600 c171590400 b108342000 c14346000 b13302000 c15814800 d2020208400 c17535600 d13914000 c17535600 b31453200 c13914000 b18140400 c13309200 b18140400 c16333200 b12697200 c16333200 b17535600 c13914000 b17535600 c13914000 b18140400 c13309200 b18140400 c13309200 b18140400 c13309200 b18140400 c13914000 b17535600 c13914000 b17535600 c13914000 b18140400 c13309200 b18140400 c13309200 b18140400 c13914000 b17535600 c13914000 b17535600 c13914000 b17535600 c13914000 b18140400 c13309200 b18140400 c13309200 b18140400 c13914000 b17535600 c13914000 b17535600 c13914000 b18140400 c13309200;"),
  ("America/Ciudad_Juarez", "-25556 -25200 -21600 -18000;b-1514739600 c171590400 b108342000 c14346000 b13302000 c15814800 d2020208400 c17535600 d13914000 c17535600 b31453200 c13914000 b18140400 c13309200 b18140400 c16333200 b12697200 c16333200 b17535600 c13914000 b17535600 c13914000 b18140400 c13309200 b18140400 c13309200 b18140400 c13309200 b18140400 c13914000 b17535600 c13914000 b17535600 c12099600 b20559600 c10890000 b20559600 c10890000 b20559600 c10890000 b20559600 c10890000 b20559600 c10890000 b20559600 c11494800 b20559600 c10890000 b20559600 c10890000 b20559600 c10890000 b20559600 c10890000 b20559600 c11494800 b20559600 c10890000 b22626000;2023 3 8 0 32400 c 11 1 0 28800 b"),
  ("America/Costa_Rica", "-20173 -21600 -18000;b-1545071027 c1833841427 b8463600 c22986000 b8463600 c335581200 b14079600 c17370000 b4921200;"),
  ("America/Coyhaique", "-17296 -16965 -18000 -14400 -10800;b-2524504304 c631842869 b204250635 d69205365 b25399035 d257820165 c18400635 d13222800 c18313200 d13222800 c18313200 d13222800 c18313200 d13222800 c18399600 d13222800 c307580400 d5274000 c147222000 d4406400 e677030400 d12697200 e20566800 d10882800 e16938000 d13302000 e18147600 d13302000 e18752400 d12697200 e17542800 d13906800 e18752400 d12697200 e18752400 d13302000 e18147600 d13302000 e18147600 d13302000 e18752400 d12697200 e18752400 d12697200 e18752400 d13302000 e18147600 d13302000 e18147600 d13302000 e18147600 d13302000 e18752400 d12697200 e18752400 d12697200 e18752400 d15721200 e15728400 d13302000 e18147600 d13302000 e18752400 d12697200 e16333200 d15116400 e18752400 d13302000 e18147600 d13302000 e18147600 d13302000 e18147600 d13302000 e18752400 d12697200 e18752400 d14511600 e16938000 d13302000 e16938000 d16326000 e16333200 d13302000 e18752400 d12697200 e18752400 d12697200 e18752400 d12697200 e18752400 d13302000 e18147600 d13302000 e18147600 d13302000 e18752400 d12697200 e18752400 d14511600 e16938000 d13302000 e18147600 d15116400 e16333200 d18140400 e9075600 d21769200 e10890000 d20559600 e11494800 d19954800 e11494800 d53218800 e7866000 d23583600 e7866000 d23583600 e7866000 d20559600 e13309200 d18140400 e13309200 d18140400 e13309200 d18140400 e13914000 d17535600 e13309200 d18745200 e13309200;"),
  ("America/Cuiaba", "-13460 -14400 -10800;b-1767212140 c560258140 b15595200 c15987600 b15548400 c526006800 b11750400 c19785600 b10450800 c21085200 b10537200 c21085200 b7772400 c339987600 b7167600 c29034000 b5094000 c21171600 b7772400 c21171600 b10364400 c21171600 b10450800 c557715600 b11487600 c19357200 b9673200 c21862800 b9068400 c21776400 b9068400 c22381200 b10278000 c21776400 b10278000 c21171600 b9673200 c22381200 b8463600 c22381200 b10882800 c20566800 b10882800 c20566800 b10278000 c20566800 b11487600 c20048400 b12610800 c19357200 b11487600 c19357200 b12697200 c19357200 b11487600 c20566800 b10882800 c22381200 b9068400 c54003600 b9500400 c20566800 b10882800 c22381200 b9673200 c19962000 b10882800 c21171600 b10278000 c21171600 b10882800 c20566800 b10882800 c20566800 b11487600 c20566800 b10278000 c21171600 b10278000 c21171600 b10882800 c20566800 b10882800 c20566800 b10882800 c20566800 b10882800 c22381200 b9068400;"),
  ("America/Danmarkshavn", "-4480 -10800 -7200 0;b-1686091520 c2009936720 b15105600 c15724800 b15724800 c15724800 b15724800 c15724800 b15724800 c15724800 b16329600 c15724800 b15724800 c15724800 b15724800 c15724800 b15724800 c15724800 b15724800 c15724800 b15724800 c15724800 b16329600 c15724800 b15724800 c15724800 b15724800 c15724800 b15724800 c15724800 b15724800 c15724800 b15724800 d8560800;"),
  ("America/Dawson", "-33460 -32400 -28800 -25200;b-2188996940 c556940540 b16930800 c18147600 b13813200 c702961200 b114822000 d617497200 b16329600 c252201600 d205030800 c15721200 d15728400 c15721200 d15728400 c16326000 d15123600 c16326000 d15728400 c15721200 d15728400 c15721200 d15728400 c15721200 d13914000 c17535600 d13914000 c18140400 d13309200 c18140400 d13309200 c18140400 d13914000 c17535600 d13914000 c17535600 d13914000 c18140400 d13309200 c18140400 d13309200 c18140400 d13914000 c17535600 d13914000 c17535600 d13914000 c17535600 d13914000 c18140400 d13309200 c18140400 d13309200 c18140400 d13914000 c17535600 d13914000 c17535600 d13914000 c18140400 d13309200 c18140400 d13309200 c18140400 d11494800 c20559600 d10890000 c20559600 d10890000 c20559600 d11494800 c20559600 d10890000 c20559600 d10890000 c20559600 d10890000 c20559600 d10890000 c20559600 d10890000 c20559600 d11494800 c20559600 d10890000 c20559600 d10890000 c20559600 d10890000 c20559600 d10890000;"),
  ("America/Dawson_Creek", "-28856 -28800 -25200;b-2713881544 c1081821544 b16930800 c734922000 b114822000 c49597200 b13302000 c18147600 b13302000 c18147600 b13302000 c18752400 b12697200 c18752400 b13302000 c18147600 b13302000 c18147600 b13302000 c18147600 b13302000 c18147600 b13302000 c18752400 b13302000 c18147600 b13302000 c18147600 b13302000 c18147600 b13302000 c18147600 b13302000 c18752400 b12697200 c18752400 b15721200 c15728400 b15721200 c15728400 b15721200 c15728400 b16326000 c15123600 b16326000 c15728400 b15721200 c15728400 b15721200 c15728400 b15721200 c15728400 b15721200 c15728400 b16326000 c15728400;"),
  ("America/Denver", "-25196 -25200 -21600;b-2717643600 c1084370400 b18140400 c13309200 b18140400 c13309200 b18745200 c12704400 b4834800 c653878800 b114822000 c617504400 b16326000 c15123600 b16326000 c15728400 b15721200 c15728400 b15721200 c15728400 b15721200 c15728400 b15721200 c15728400 b16326000 c15728400 b15721200 c15728400 b15721200 c6051600 b25398000 c10285200 b21164400 c15728400 b16326000 c15123600 b16326000 c15728400 b15721200 c15728400 b15721200 c15728400 b15721200 c15728400 b15721200 c15728400 b16326000 c15123600 b16326000 c15728400 b15721200 c15728400 b15721200 c15728400 b15721200 c13914000 b17535600 c13914000 b18140400 c13309200 b18140400 c13309200 b18140400 c13914000 b17535600 c13914000 b17535600 c13914000 b18140400 c13309200 b18140400 c13309200 b18140400 c13914000 b17535600 c13914000 b17535600 c13914000 b17535600 c13914000 b18140400 c13309200 b18140400 c13309200 b18140400 c13914000 b17535600 c13914000 b17535600 c13914000 b18140400 c13309200 b18140400 c13309200 b18140400;2007 3 8 0 32400 c 11 1 0 28800 b"),
  ("America/Detroit", "-19931 -21600 -18000 -14400;b-2051202469 c327119269 d843865200 c114822000 d81046800 c13302000 d590540460 c11840340 d15728400 c15721200 d142131600 c15721200 d6051600 c25398000 d15728400 c15721200 d15728400 c16326000 d15123600 c16326000 d15728400 c15721200 d15728400 c15721200 d15728400 c15721200 d15728400 c15721200 d15728400 c16326000 d15123600 c16326000 d15728400 c15721200 d15728400 c15721200 d15728400 c15721200 d13914000 c17535600 d13914000 c18140400 d13309200 c18140400 d13309200 c18140400 d13914000 c17535600 d13914000 c17535600 d13914000 c18140400 d13309200 c18140400 d13309200 c18140400 d13914000 c17535600 d13914000 c17535600 d13914000 c17535600 d13914000 c18140400 d13309200 c18140400 d13309200 c18140400 d13914000 c17535600 d13914000 c17535600 d13914000 c18140400 d13309200 c18140400 d13309200 c18140400;2007 3 8 0 25200 d 11 1 0 21600 c"),
  ("America/Edmonton", "-27232 -25200 -21600;b-1998663968 c366600368 b16930800 c14518800 b3798000 c28861200 b16326000 c15123600 b13302000 c18752400 b12697200 c18752400 b13302000 c579488400 b114822000 c49597200 b13302000 c775962000 b15721200 c15728400 b15721200 c15728400 b15721200 c15728400 b15721200 c15728400 b16326000 c15123600 b16326000 c15728400 b15721200 c15728400 b15721200 c15728400 b15721200 c15728400 b15721200 c15728400 b16326000 c15123600 b16326000 c15728400 b15721200 c15728400 b15721200 c15728400 b15721200 c13914000 b17535600 c13914000 b18140400 c13309200 b18140400 c13309200 b18140400 c13914000 b17535600 c13914000 b17535600 c13914000 b18140400 c13309200 b18140400 c13309200 b18140400 c13914000 b17535600 c13914000 b17535600 c13914000 b17535600 c13914000 b18140400 c13309200 b18140400 c13309200 b18140400 c13914000 b17535600 c13914000 b17535600 c13914000 b18140400 c13309200 b18140400 c13309200 b18140400;2007 3 8 0 32400 c 11 1 0 28800 b"),
  ("America/Eirunepe", "-16768 -18000 -14400;b-1767208832 c560258432 b15595200 c15987600 b15548400 c526006800 b11750400 c19785600 b10450800 c21085200 b10537200 c21085200 b7772400 c339987600 b7167600 c29034000 b5094000 c21171600 b7772400 c21171600 b10364400 c21171600 b10450800 c557715600 b11487600 c19357200 b9673200 c21862800 b9068400 c179629200 b10882800 c452566800 b169772400;"),
  ("America/El_Salvador", "-21408 -21600 -18000;b-1546279392 c2093299392 b12697200 c18752400 b12697200;"),
  ("America/Fort_Nelson", "-29447 -28800 -25200;b-2713880953 c1081820953 b16930800 c734922000 b114822000 c49597200 b13302000 c18147600 b13302000 c18147600 b13302000 c18752400 b12697200 c18752400 b13302000 c18147600 b13302000 c18147600 b13302000 c18147600 b13302000 c18147600 b13302000 c18752400 b13302000 c18147600 b13302000 c18147600 b13302000 c18147600 b13302000 c18147600 b13302000 c18752400 b12697200 c18752400 b15721200 c15728400 b15721200 c15728400 b15721200 c15728400 b16326000 c15123600 b16326000 c15728400 b15721200 c15728400 b15721200 c15728400 b15721200 c15728400 b15721200 c15728400 b16326000 c15728400 b15721200 c15728400 b15721200 c15728400 b15721200 c15728400 b15721200 c15728400 b16326000 c15123600 b16326000 c15728400 b15721200 c15728400 b15721200 c15728400 b15721200 c15728400 b15721200 c15728400 b16326000 c15123600 b16326000 c15728400 b15721200 c15728400 b15721200 c15728400 b15721200 c13914000 b17535600 c13914000 b18140400 c13309200 b18140400 c13309200 b18140400 c13914000 b17535600 c13914000 b17535600 c13914000 b18140400 c13309200 b18140400 c13309200 b18140400 c13914000 b17535600 c13914000 b17535600 c13914000 b17535600 c13914000 b18140400 c13309200 b18140400 c13309200 b18140400 c13914000 b17535600 c13914000 b17535600 c13914000 b18140400 c13309200 b18140400 c13309200 b18140400 c11494800 b20559600 c10890000 b20559600 c10890000 b20559600 c11494800 b20559600 c10890000 b20559600 c10890000 b20559600 c10890000 b20559600 c10890000 b20559600 c10890000;"),
  ("America/Fortaleza", "-9240 -10800 -7200;b-1767216360 c560258760 b15595200 c15987600 b15548400 c526006800 b11750400 c19785600 b10450800 c21085200 b10537200 c21085200 b7772400 c339987600 b7167600 c29034000 b5094000 c21171600 b7772400 c21171600 b10364400 c21171600 b10450800 c557715600 b11487600 c19357200 b9673200 c21862800 b9068400 c21776400 b9068400 c22381200 b10278000 c304218000 b12697200 c19357200 b1206000 c30848400 b10882800;"),
  ("America/Glace_Bay", "-14388 -14400 -10800;b-2131646412 c499572012 b16930800 c734922000 b114822000 c238899600 b13302000 c586659600 b15721200 c15728400 b15721200 c15728400 b15721200 c15728400 b15721200 c15728400 b16326000 c15123600 b16326000 c15728400 b15721200 c15728400 b15721200 c15728400 b15721200 c15728400 b15721200 c15728400 b16326000 c15123600 b16326000 c15728400 b15721200 c15728400 b15721200 c15728400 b15721200 c13914000 b17535600 c13914000 b18140400 c13309200 b18140400 c13309200 b18140400 c13914000 b17535600 c13914000 b17535600 c13914000 b18140400 c13309200 b18140400 c13309200 b18140400 c13914000 b17535600 c13914000 b17535600 c13914000 b17535600 c13914000 b18140400 c13309200 b18140400 c13309200 b18140400 c13914000 b17535600 c13914000 b17535600 c13914000 b18140400 c13309200 b18140400 c13309200 b18140400;2007 3 8 0 21600 c 11 1 0 18000 b"),
  ("America/Goose_Bay", "-14500 -12652 -9052 -12600 -9000 -14400 -10800 -7200;b-2713895900 c1081819752 b16930800 d518223600 e35251148 d12697200 e18752400 d12697200 e18752400 d12697200 e19357200 d12092400 e19357200 d12697200 e18752400 d12697200 e18752400 d106966800 e19357200 d12697200 e18752400 d12697200 e18752400 d12697200 e18752400 d12697200 e19357200 d12697200 e17542800 d13302000 e18147600 d13302000 e18147600 d13302000 e18147600 d13302000 e18147600 d13302000 e18752400 d13302000 e18147600 d13302000 e18147600 d13302000 e18147600 d13302000 e18147600 d16326000 e15728400 d15721200 e15728400 d15721200 e15728400 d15721200 e15728400 d15721200 e15728400 d16326000 f11667600 g3457800 f16326000 g15728400 f15721200 g15728400 f15721200 g15728400 f15721200 g15728400 f15721200 g15728400 f16326000 g15728400 f15721200 g15728400 f15721200 g15728400 f15721200 g15728400 f15721200 g15728400 f16326000 g15123600 f16326000 g15728400 f15721200 g15728400 f15721200 g15728400 f15721200 g15728400 f15721200 g15728400 f16326000 g15123600 f16326000 g15728400 f15721200 g15728400 f15721200 g15728400 f15721200 g13906860 f17535600 h13914000 f18136800 g13312800 f18140400 g13309200 f18140400 g13914000 f17535600 g13914000 f17535600 g13914000 f18140400 g13309200 f18140400 g13309200 f18140400 g13914000 f17535600 g13914000 f17535600 g13914000 f17535600 g13914000 f18140400 g13309200 f18140400 g13309200 f18140400 g13914000 f17535600 g13914000 f17535600 g13914000 f18140400 g13309200 f18140400 g13309200 f18140400 g11494800 f20559600 g10890000 f20559600 g10890000 f20559600 g11494800 f20559600 g10890000 f20566740;2012 3 8 0 21600 g 11 1 0 18000 f"),
  ("America/Grand_Turk", "-17072 -18430 -18000 -14400;b-2524504528 c696817358 d2121904370 c15721200 d15728400 c15721200 d15728400 c15721200 d15728400 c16326000 d15123600 c16326000 d15728400 c15721200 d15728400 c15721200 d15728400 c15721200 d13914000 c17535600 d13914000 c18140400 d13309200 c18140400 d13309200 c18140400 d13914000 c17535600 d13914000 c17535600 d13914000 c18140400 d13309200 c18140400 d13309200 c18140400 d13914000 c17535600 d13914000 c17535600 d13914000 c17535600 d13914000 c18140400 d13309200 c18140400 d13309200 c18140400 d13914000 c17535600 d13914000 c17535600 d13914000 c18140400 d13309200 c18140400 d13309200 c18140400 d11494800 c20559600 d10890000 c20559600 d10890000 c20559600 d11494800 c20559600 d10890000 c20559600 d10890000 c20559600 d10890000 c20559600 d10890000 c20559600 d10890000 c115513200;2019 3 8 0 25200 d 11 1 0 21600 c"),
  ("America/Guatemala", "-21724 -21600 -18000;b-1617040676 c1740095876 b7858800 c291430800 b10710000 c236653200 b14511600 c462157200 b13302000;"),
  ("America/Guayaquil", "-19160 -18840 -18000 -14400;b-2524502440 c1293753280 d1953675960 c5958000;"),
  ("America/Guyana", "-13959 -14400 -13500 -10800;b-1843589241 c113011641 d1906674300 b525744900;"),
  ("America/Halifax", "-15264 -14400 -10800;b-2131645536 c435368736 b15807600 c48394800 b16930800 c48380400 b9673200 c21603600 b10537200 c20480400 b11055600 c20998800 b10450800 c20998800 b11574000 c19875600 b12783600 c19875600 b10364400 c19875600 b12783600 c19875600 b10278000 c21171600 b9846000 c21603600 b10969200 c20480400 b12178800 c18666000 b12783600 c18666000 b13388400 c19875600 b10278000 c22381200 b10364400 c21171600 b9068400 c19875600 b12783600 c18666000 b12783600 c21085200 b10364400 c19270800 b12783600 c18666000 b12783600 c11502000 b114822000 c18147600 b13302000 c18147600 b13302000 c18147600 b13302000 c18147600 b13302000 c50202000 b13302000 c18147600 b13302000 c18147600 b13302000 c18147600 b13302000 c50202000 b13302000 c18147600 b13302000 c18147600 b13302000 c18147600 b13302000 c81651600 b15721200 c15728400 b15721200 c15728400 b15721200 c15728400 b16326000 c15123600 b16326000 c15728400 b15721200 c15728400 b15721200 c15728400 b15721200 c15728400 b15721200 c15728400 b16326000 c15728400 b15721200 c15728400 b15721200 c15728400 b15721200 c15728400 b15721200 c15728400 b16326000 c15123600 b16326000 c15728400 b15721200 c15728400 b15721200 c15728400 b15721200 c15728400 b15721200 c15728400 b16326000 c15123600 b16326000 c15728400 b15721200 c15728400 b15721200 c15728400 b15721200 c13914000 b17535600 c13914000 b18140400 c13309200 b18140400 c13309200 b18140400 c13914000 b17535600 c13914000 b17535600 c13914000 b18140400 c13309200 b18140400 c13309200 b18140400 c13914000 b17535600 c13914000 b17535600 c13914000 b17535600 c13914000 b18140400 c13309200 b18140400 c13309200 b18140400 c13914000 b17535600 c13914000 b17535600 c13914000 b18140400 c13309200 b18140400 c13309200 b18140400;2007 3 8 0 21600 c 11 1 0 18000 b"),
  ("America/Havana", "-19768 -19776 -18000 -14400;b-2524501832 c1121688008 d91279824 c10537200 d367462800 c7858800 d23590800 c8463600 d23590800 c7858800 d86490000 c7858800 d23590800 c7858800 d591670800 c10450800 d20826000 c10882800 d16246800 c13388400 d18752400 c12697200 d19962000 c15721200 d15728400 c15721200 d15728400 c16326000 d15728400 c13906800 d17542800 c13993200 d17456400 c14079600 d17370000 c15721200 d15728400 c16326000 d15123600 c16326000 d16333200 c13302000 d13914000 c18140400 d13309200 c18140400 d18147600 c13302000 d18147600 c13302000 d18147600 c13302000 d18147600 c13906800 d17542800 c13906800 d13309200 c18140400 d13309200 c18140400 d13914000 c17535600 d13914000 c17535600 d15123600 c16930800 d15123600 c16329600 d15120000 c16329600 d15120000 c16329600 d15120000 c16329600 d15120000 c16329600 d15724800 c15724800 d15724800 c16329600 d14515200 c18144000 d13305600 c18748800 d13305600 c18144000 d13305600 c18144000 d13910400 c17539200 d13910400 c17539200 d13305600 c81648000 d11491200 c19958400 d12096000 c19353600 d11491200 c19958400 d12096000 c19958400 d12096000 c20563200 d12096000 c18748800;2013 3 8 0 18000 d 11 1 0 18000 c"),
  ("America/Hermosillo", "-26632 -25200 -21600;b-1514739600 c171590400 b108342000 c14346000 b13302000 c15814800 b317516400 c1702695600 b17535600 c13914000 b17535600 c13914000 b17535600;"),
  ("America/Indiana/Indianapolis", "-20678 -21600 -18000 -14400;b-2717647200 c1084370400 b18140400 c13309200 b18140400 c683427600 b8463600 c11581200 b114822000 c18147600 b13302000 c18147600 b13302000 c18147600 b13302000 c18147600 b13302000 c18752400 b12697200 c18752400 b13302000 c18147600 b13302000 c18147600 b13302000 c18147600 b13302000 c18147600 b76806000 c18147600 d347151600 c15721200 d15728400 c15721200 d1118278800 c18140400;2007 3 8 0 25200 d 11 1 0 21600 c"),
  ("America/Indiana/Knox", "-20790 -21600 -18000;b-2717647200 c1084370400 b18140400 c13309200 b18140400 c703472400 b114822000 c49597200 b13302000 c18147600 b13302000 c18147600 b13302000 c18752400 b12697200 c18752400 b13302000 c18147600 b13302000 c18147600 b13302000 c18147600 b13302000 c18147600 b16326000 c15728400 b15721200 c15728400 b13302000 c18147600 b13302000 c18147600 b15721200 c15728400 b16326000 c15728400 b15721200 c15728400 b47170800 c110682000 b15721200 c15728400 b15721200 c15728400 b15721200 c15728400 b15721200 c15728400 b16326000 c15728400 b15721200 c15728400 b15721200 c6051600 b25398000 c10285200 b21164400 c15728400 b16326000 c15123600 b16326000 c15728400 b15721200 c15728400 b15721200 c15728400 b15721200 c15728400 b15721200 c15728400 b16326000 c15123600 b16326000 c15728400 b15721200 c15728400 b15721200 c15728400 b15721200 c13914000 b17535600 c13914000 b18140400 c13309200 b18140400 c13309200 b18140400 c13914000 b491094000;2007 3 8 0 28800 c 11 1 0 25200 b"),
  ("America/Indiana/Marengo", "-20723 -21600 -18000 -14400;b-2717647200 c1084370400 b18140400 c13309200 b18140400 c703472400 b114822000 c176000400 b13302000 c81046800 b13302000 c18147600 b13302000 c18752400 b13302000 c18147600 b13302000 c18147600 b13302000 c18147600 b13302000 c18147600 b13302000 c18752400 d252198000 c15721200 d15728400 c15721200 d15728400 c16326000 d15728400 c15721200 d15728400 c15721200 d41734800 c21164400 d960426000 c18140400;2007 3 8 0 25200 d 11 1 0 21600 c"),
  ("America/Indiana/Petersburg", "-20947 -21600 -18000 -14400;b-2717647200 c1084370400 b18140400 c13309200 b18140400 c703472400 b114822000 c302396400 b12704400 c18752400 b13302000 c18147600 b13302000 c18147600 b13302000 c18147600 b13302000 c18147600 b13302000 c18752400 b15721200 c15728400 b15721200 c15728400 b15721200 c15728400 b15721200 c15728400 b47775600 c15728400 b15721200 c15728400 b15721200 c15728400 b15721200 c15728400 b15721200 c15728400 b16326000 c15728400 b15721200 c15728400 b15721200 c6051600 b25398000 c10285200 b21164400 c15728400 b16326000 c15123600 b931388400 c11494800;2008 3 8 0 25200 d 11 1 0 21600 c"),
  ("America/Indiana/Tell_City", "-20823 -21600 -18000 -14400;b-2717647200 c1084370400 b18140400 c13309200 b18140400 c703472400 b114822000 c302396400 b12704400 c18752400 b13302000 c18147600 b13302000 c18147600 b13302000 c18147600 b13302000 c18147600 b13302000 c18752400 b15721200 c15728400 b15721200 c15728400 b15721200 c15728400 b110674800 c15728400 b15721200 d15728400 c15717600 d15728400 c15721200 b1136422800;2007 3 8 0 28800 c 11 1 0 25200 b"),
  ("America/Indiana/Vevay", "-20416 -21600 -18000 -14400;b-2717647200 c1084370400 b18140400 c13309200 b18140400 c703472400 b114822000 c270349200 d473554800 c15721200 d15728400 c15721200 d15728400 c16326000 d15728400 c15721200 d1054774800 c18140400;2007 3 8 0 25200 d 11 1 0 21600 c"),
  ("America/Indiana/Vincennes", "-21007 -21600 -18000 -14400;b-2717647200 c1084370400 b18140400 c13309200 b18140400 c703472400 b114822000 c18147600 b13302000 c207450000 b13302000 c18147600 b13302000 c18745200 b12704400 c18752400 b13302000 c18147600 b13302000 c18147600 b13302000 c18147600 b13302000 c18147600 b16326000 c15728400 b12697200 c18752400 b15721200 c15728400 b15721200 c15728400 d157849200 c15721200 d15728400 c15721200 b1136422800 c11494800;2008 3 8 0 25200 d 11 1 0 21600 c"),
  ("America/Indiana/Winamac", "-20785 -21600 -18000 -14400;b-2717647200 c1084370400 b18140400 c13309200 b18140400 c703472400 b114822000 c18147600 b13302000 c18147600 b13302000 c18147600 b13302000 c18147600 b13302000 c18752400 b12697200 c18752400 b13302000 c18147600 b13302000 c18147600 b13302000 c18147600 b13302000 c18147600 b16326000 c15728400 b15721200 c15728400 b13302000 c18147600 b13302000 c18147600 b13302000 c18147600 b13302000 c18752400 d252198000 c15721200 d15728400 c15721200 b1136422800 d11494800 c20556000;2008 3 8 0 25200 d 11 1 0 21600 c"),
  ("America/Inuvik", "0 -28800 -25200 -21600;b-536457600 c609933600 b15721200 c15728400 b15721200 c15728400 b15721200 c15728400 b15721200 c15728400 b16326000 c15123600 b16326000 c15728400 b15721200 d15728400 c15717600 d15728400 c15721200 d15728400 c15721200 d15728400 c16326000 d15123600 c16326000 d15728400 c15721200 d15728400 c15721200 d15728400 c15721200 d13914000 c17535600 d13914000 c18140400 d13309200 c18140400 d13309200 c18140400 d13914000 c17535600 d13914000 c17535600 d13914000 c18140400 d13309200 c18140400 d13309200 c18140400 d13914000 c17535600 d13914000 c17535600 d13914000 c17535600 d13914000 c18140400 d13309200 c18140400 d13309200 c18140400 d13914000 c17535600 d13914000 c17535600 d13914000 c18140400 d13309200 c18140400 d13309200 c18140400;2007 3 8 0 32400 d 11 1 0 28800 c"),
  ("America/Iqaluit", "0 -14400 -18000 -21600;b-865296000 c99900000 b838861200 c15721200 b15728400 c15721200 b15728400 c15721200 b15728400 c15721200 b15728400 c16326000 b15123600 c16326000 b15728400 c15721200 b15728400 c15721200 b15728400 c15721200 b15728400 c15721200 b15728400 c16326000 b15123600 c16326000 b15728400 c15721200 b15728400 c15721200 b15728400 c15721200 b13914000 c17535600 b13914000 c18140400 b13309200 c18140400 b13309200 c18140400 b13914000 c17535600 b13914000 c17535600 b13914000 c18140400 b13309200 c18140400 b13309200 c18140400 b13914000 c17535600 b13914000 c17535600 b13914000 c17535600 b13914000 d18140400 c13312800 b31446000 c18140400 b13914000 c17535600 b13914000 c17535600 b13914000 c18140400 b13309200 c18140400 b13309200 c18140400;2007 3 8 0 25200 b 11 1 0 21600 c"),
  ("America/Jamaica", "-18430 -18000 -14400;b-1827687170 c1954374770 b25398000 c10285200 b21164400 c15728400 b16326000 c15123600 b16326000 c15728400 b15721200 c15728400 b15721200 c15728400 b15721200 c15728400 b15721200 c15728400 b16326000 c15123600 b16326000;"),
  ("America/Juneau", "54139 -32261 -28800 -25200 -32400;b-3225223727 c1036268788 d1308747739 c114822000 d743907600 c15721200 d15728400 c15721200 d15728400 c16326000 d15728400 c15721200 d15728400 c15721200 d6051600 c25398000 d10285200 c21164400 d15728400 c16326000 d15123600 c16326000 d15728400 c15721200 d15728400 c15721200 d47178000 c15721200 d15728400 c16326000 d15123600 e16326000 c15732000 e15721200 c15728400 e15721200 c15728400 e15721200 c13914000 e17535600 c13914000 e18140400 c13309200 e18140400 c13309200 e18140400 c13914000 e17535600 c13914000 e17535600 c13914000 e18140400 c13309200 e18140400 c13309200 e18140400 c13914000 e17535600 c13914000 e17535600 c13914000 e17535600 c13914000 e18140400 c13309200 e18140400 c13309200 e18140400 c13914000 e17535600 c13914000 e17535600 c13914000 e18140400 c13309200 e18140400 c13309200 e18140400;2007 3 8 0 39600 c 11 1 0 36000 e"),
  ("America/Kentucky/Louisville", "-20582 -21600 -18000 -14400;b-2717647200 c1084370400 b18140400 c13309200 b18140400 c47782800 b10623600 c620182800 b13302000 c11581200 b114822000 c18140460 b3027540 c123382800 b12697200 c18752400 b13302000 c18147600 b13302000 c18147600 b13302000 c18147600 b13302000 c18147600 b13302000 c18752400 b15721200 c15728400 b15721200 c15728400 b15721200 c15728400 b15721200 c15728400 b16326000 c15728400 d220748400 c15721200 d15728400 c15721200 d15728400 c15721200 d15728400 c16326000 d15728400 c15721200 d15728400 c15721200 d41734800 c21164400 d15728400 c16326000 d15123600 c16326000 d15728400 c15721200 d15728400 c15721200 d15728400 c15721200 d15728400 c15721200 d15728400 c16326000 d15123600 c16326000 d15728400 c15721200 d15728400 c15721200 d15728400 c15721200 d13914000 c17535600 d13914000 c18140400 d13309200 c18140400 d13309200 c18140400 d13914000 c17535600 d13914000 c17535600 d13914000 c18140400 d13309200 c18140400 d13309200 c18140400 d13914000 c17535600 d13914000 c17535600 d13914000 c17535600 d13914000 c18140400 d13309200 c18140400 d13309200 c18140400 d13914000 c17535600 d13914000 c17535600 d13914000 c18140400 d13309200 c18140400 d13309200 c18140400;2007 3 8 0 25200 d 11 1 0 21600 c"),
  ("America/Kentucky/Monticello", "-20364 -21600 -18000 -14400;b-2717647200 c1084370400 b18140400 c13309200 b18140400 c703472400 b114822000 c712458000 b15721200 c15728400 b15721200 c15728400 b15721200 c15728400 b16326000 c15728400 b15721200 c15728400 b15721200 c6051600 b25398000 c10285200 b21164400 c15728400 b16326000 c15123600 b16326000 c15728400 b15721200 c15728400 b15721200 c15728400 b15721200 c15728400 b15721200 c15728400 b16326000 c15123600 b16326000 c15728400 b15721200 c15728400 b15721200 c15728400 b15721200 c13914000 b17535600 c13914000 b18140400 c13309200 b18140400 c13309200 b18140400 c13914000 b17535600 c13914000 b17535600 c13914000 b18140400 c13309200 b18140400 c13309200 b18140400 c13914000 b17535600 c13914000 b17535600 c13914000 b17535600 c13914000 b18140400 c13309200 d31446000 c18140400 d13914000 c17535600 d13914000 c17535600 d13914000 c18140400 d13309200 c18140400 d13309200 c18140400;2007 3 8 0 25200 d 11 1 0 21600 c"),
  ("America/La_Paz", "-16356 -12756 -14400;b-1205954844 c13647600;"),
  ("America/Lima", "-18492 -18516 -18000 -14400;b-2524503108 c585964824 d928713084 c7772400 d15296400 c15721200 d15728400 c15721200 d1444525200 c7772400 d23763600 c7772400 d86922000 c7772400 d118458000 c7772400;"),
  ("America/Los_Angeles", "-28378 -28800 -25200;b-2717640000 c1084370400 b18140400 c13309200 b18140400 c703472400 b114822000 c77418060 b25311540 c41817600 b12700800 c18748800 b13305600 c18144000 b13305600 c18144000 b13305600 c18144000 b13305600 c18144000 b13305600 c18748800 b13305600 c18144000 b13305600 c18144000 b13305600 c18144000 b13305600 c18144000 b13305600 c18748800 b12700800 c18748800 b15724800 c15724800 b15724800 c15724800 b15724800 c15724800 b16329600 c15120000 b16329600 c15728400 b15721200 c15728400 b15721200 c15728400 b15721200 c15728400 b15721200 c15728400 b16326000 c15728400 b15721200 c15728400 b15721200 c6051600 b25398000 c10285200 b21164400 c15728400 b16326000 c15123600 b16326000 c15728400 b15721200 c15728400 b15721200 c15728400 b15721200 c15728400 b15721200 c15728400 b16326000 c15123600 b16326000 c15728400 b15721200 c15728400 b15721200 c15728400 b15721200 c13914000 b17535600 c13914000 b18140400 c13309200 b18140400 c13309200 b18140400 c13914000 b17535600 c13914000 b17535600 c13914000 b18140400 c13309200 b18140400 c13309200 b18140400 c13914000 b17535600 c13914000 b17535600 c13914000 b17535600 c13914000 b18140400 c13309200 b18140400 c13309200 b18140400 c13914000 b17535600 c13914000 b17535600 c13914000 b18140400 c13309200 b18140400 c13309200 b18140400;2007 3 8 0 36000 c 11 1 0 32400 b"),
  ("America/Maceio", "-8572 -10800 -7200;b-1767217028 c560259428 b15595200 c15987600 b15548400 c526006800 b11750400 c19785600 b10450800 c21085200 b10537200 c21085200 b7772400 c339987600 b7167600 c29034000 b5094000 c21171600 b7772400 c21171600 b10364400 c21171600 b10450800 c557715600 b11487600 c19357200 b9673200 c21862800 b9068400 c21776400 b9068400 c22381200 b10278000 c179024400 b10278000 c114915600 b12697200 c19357200 b1206000 c30848400 b10882800;"),
  ("America/Managua", "-20708 -20712 -21600 -18000;b-2524500892 c1403395204 d1226189688 c56674800 d128826000 c8550000 d22899600 c8550000 d363675600 c23050800 d8557200 c126226800 d261018000 c15116400 d18154800 c13298400;"),
  ("America/Manaus", "-14404 -14400 -10800;b-1767211196 c560257196 b15595200 c15987600 b15548400 c526006800 b11750400 c19785600 b10450800 c21085200 b10537200 c21085200 b7772400 c339987600 b7167600 c29034000 b5094000 c21171600 b7772400 c21171600 b10364400 c21171600 b10450800 c557715600 b11487600 c19357200 b9673200 c21862800 b9068400 c179629200 b10882800;"),
  ("America/Martinique", "-14660 -14400 -10800;b-1851537340 c2175378940 b15116400;"),
  ("America/Matamoros", "-23400 -21600 -18000;b-1514743200 c2090800800 b18140400 c234666000 b17535600 c13914000 b17535600 c13914000 b17535600 c13914000 b18140400 c13309200 b18140400 c16333200 b12697200 c16333200 b17535600 c13914000 b17535600 c13914000 b18140400 c13309200 b18140400 c13309200 b18140400 c13309200 b18140400 c13914000 b17535600 c13914000 b17535600;2010 3 8 0 28800 c 11 1 0 25200 b"),
  ("America/Mazatlan", "-25540 -25200 -21600;b-1514739600 c171590400 b108342000 c14346000 b13302000 c15814800 b317516400 c1702695600 b17535600 c13914000 b17535600 c13914000 b17535600 c13914000 b18140400 c13309200 b18140400 c16333200 b12697200 c16333200 b17535600 c13914000 b17535600 c13914000 b18140400 c13309200 b18140400 c13309200 b18140400 c13309200 b18140400 c13914000 b17535600 c13914000 b17535600 c13914000 b18140400 c13309200 b18140400 c13309200 b18140400 c13914000 b17535600 c13914000 b17535600 c13914000 b17535600 c13914000 b18140400 c13309200 b18140400 c13309200 b18140400 c13914000 b17535600 c13914000 b17535600 c13914000 b18140400 c13309200 b18140400;"),
  ("America/Menominee", "-21027 -21600 -18000;b-2659759773 c1026482973 b18140400 c13309200 b18140400 c703472400 b114822000 c18147600 b13302000 c617504400 b16326000 c78627600 b142124400 c6051600 b25398000 c10285200 b21164400 c15728400 b16326000 c15123600 b16326000 c15728400 b15721200 c15728400 b15721200 c15728400 b15721200 c15728400 b15721200 c15728400 b16326000 c15123600 b16326000 c15728400 b15721200 c15728400 b15721200 c15728400 b15721200 c13914000 b17535600 c13914000 b18140400 c13309200 b18140400 c13309200 b18140400 c13914000 b17535600 c13914000 b17535600 c13914000 b18140400 c13309200 b18140400 c13309200 b18140400 c13914000 b17535600 c13914000 b17535600 c13914000 b17535600 c13914000 b18140400 c13309200 b18140400 c13309200 b18140400 c13914000 b17535600 c13914000 b17535600 c13914000 b18140400 c13309200 b18140400 c13309200 b18140400;2007 3 8 0 28800 c 11 1 0 25200 b"),
  ("America/Merida", "-21508 -21600 -18000;b-1514743200 c1892944800 b26866800 c423795600 b17535600 c13914000 b17535600 c13914000 b17535600 c13914000 b18140400 c13309200 b18140400 c16333200 b12697200 c16333200 b17535600 c13914000 b17535600 c13914000 b18140400 c13309200 b18140400 c13309200 b18140400 c13309200 b18140400 c13914000 b17535600 c13914000 b17535600 c13914000 b18140400 c13309200 b18140400 c13309200 b18140400 c13914000 b17535600 c13914000 b17535600 c13914000 b17535600 c13914000 b18140400 c13309200 b18140400 c13309200 b18140400 c13914000 b17535600 c13914000 b17535600 c13914000 b18140400 c13309200 b18140400;"),
  ("America/Metlakatla", "54822 -31578 -28800 -25200 -32400;b-3225223727 c1036268105 d1308748422 c114822000 d743907600 c15721200 d15728400 c15721200 d15728400 c16326000 d15728400 c15721200 d15728400 c15721200 d6051600 c25398000 d10285200 c21164400 d15728400 c16326000 d15123600 c16326000 d15728400 c15721200 d15728400 c15721200 d15728400 c15721200 d15728400 c15721200 d15728400 c16326000 d15123600 c16326000 e1010019600 c11494800 e20559600 c10890000 e20559600 c10890000 e27212400;2019 3 8 0 39600 c 11 1 0 36000 e"),
  ("America/Mexico_City", "-23796 -25200 -21600 -18000;b-1514739600 c171590400 b108342000 c14346000 b13302000 c15814800 d216082800 c12092400 d46054800 c9759600 d85453200 c11833200 d182566800 c14511600 d1441854000 c17535600 d13914000 c17535600 d13914000 c17535600 d13914000 c18140400 d13309200 c18140400 d16333200 c12697200 d16333200 c17535600 d13914000 c17535600 d13914000 c18140400 d13309200 c18140400 d13309200 c18140400 d13309200 c18140400 d13914000 c17535600 d13914000 c17535600 d13914000 c18140400 d13309200 c18140400 d13309200 c18140400 d13914000 c17535600 d13914000 c17535600 d13914000 c17535600 d13914000 c18140400 d13309200 c18140400 d13309200 c18140400 d13914000 c17535600 d13914000 c17535600 d13914000 c18140400 d13309200 c18140400;"),
  ("America/Miquelon", "-13480 -14400 -10800 -7200;b-1847650520 c2173652120 d218595600 c17535600 d13914000 c18140400 d13309200 c18140400 d13309200 c18140400 d13914000 c17535600 d13914000 c17535600 d13914000 c18140400 d13309200 c18140400 d13309200 c18140400 d13914000 c17535600 d13914000 c17535600 d13914000 c17535600 d13914000 c18140400 d13309200 c18140400 d13309200 c18140400 d13914000 c17535600 d13914000 c17535600 d13914000 c18140400 d13309200 c18140400 d13309200 c18140400;2007 3 8 0 18000 d 11 1 0 14400 c"),
  ("America/Moncton", "-15548 -18000 -14400 -10800;b-2715882052 c584239252 d499568400 c16930800 d461462400 c7858800 d23590800 c7858800 d23590800 c7858800 d23590800 c7858800 d23590800 c7858800 d23590800 c7858800 d22899600 c10278000 d20653200 c10796400 d19443600 c12610800 d11671200 c114822000 d18147600 c13302000 d18147600 c13302000 d18147600 c13302000 d18147600 c13302000 d18752400 c12697200 d18752400 c13302000 d18147600 c13302000 d18147600 c13302000 d18147600 c13302000 d18147600 c13302000 d18752400 c13302000 d18147600 c15721200 d15728400 c15721200 d15728400 c15721200 d15728400 c16326000 d15728400 c15721200 d15728400 c15721200 d15728400 c15721200 d15728400 c15721200 d15728400 c16326000 d15123600 c16326000 d15728400 c15721200 d15728400 c15721200 d15728400 c15721200 d15728400 c15721200 d15728400 c16326000 d15728400 c15721200 d47178000 c15721200 d15728400 c15721200 d15728400 c16326000 d15123600 c16326000 d15728400 c15721200 d15728400 c15721200 d15728400 c15721200 d15728400 c15721200 d15728400 c16326000 d15123600 c16326000 d15728400 c15721200 d15728400 c15721200 d15728400 c15721200 d13914000 c17535600 d13914000 c18140400 d13309200 c18140400 d13309200 c18140400 d13914000 c17535600 d13914000 c17535600 d13906860 c18140400 d13309200 c18140400 d13309200 c18140400 d13914000 c17535600 d13914000 c17535600 d13914000 c17535600 d13914000 c18140400 d13309200 c18140400 d13309200 c18140400 d13914000 c17535600 d13914000 c17535600 d13914000 c18140400 d13309200 c18140400 d13309200 c18140400;2007 3 8 0 21600 d 11 1 0 18000 c"),
  ("America/Monterrey", "-24076 -25200 -21600 -18000;b-1514743200 c171594000 b108342000 c14346000 b13302000 c15814800 d1767402000 c18140400 d234666000 c17535600 d13914000 c17535600 d13914000 c17535600 d13914000 c18140400 d13309200 c18140400 d16333200 c12697200 d16333200 c17535600 d13914000 c17535600 d13914000 c18140400 d13309200 c18140400 d13309200 c18140400 d13309200 c18140400 d13914000 c17535600 d13914000 c17535600 d13914000 c18140400 d13309200 c18140400 d13309200 c18140400 d13914000 c17535600 d13914000 c17535600 d13914000 c17535600 d13914000 c18140400 d13309200 c18140400 d13309200 c18140400 d13914000 c17535600 d13914000 c17535600 d13914000 c18140400 d13309200 c18140400;"),
  ("America/Montevideo", "-13491 -14400 -10800 -12600 -9000 -7200 -5400;b-1567455309 c107828109 d15807600 c15813000 d15723000 c15813000 d15723000 c239157000 d13303800 c18145800 d13303800 c18145800 d13303800 c18145800 d13303800 c18750600 d12699000 c18750600 d12699000 c16331400 d15723000 c18145800 d13303800 c10715400 e43198200 c7774200 e511057800 c15118200 f5445000 c4230000 f160275600 c15116400 e84157200 c16241400 f44065800 c4316400 f58669200 c7254000 g47178000 e4833000 c15123600 f9678600 c8463600 f54435600 c6649200 f23590800 c7858800 f24800400 c6649200 f4842000 c27817200 f244429200 c6562800 f24800400 c7254000 f20566800 c10278000 f20566800 c11487600 f20566800 c10882800 f19962000 c11487600 f364698000 c16333200 f16938000 c13302000 f17542800 c13906800 f18147600 c13302000 f18147600 c13302000 f18147600 c13906800 f17542800 c13906800 f17542800 c13906800 f18147600 c13302000 f18147600 c13302000 f18147600 c13302000;"),
  ("America/New_York", "-17762 -18000 -14400;b-2717650800 c1084370400 b18140400 c13309200 b18140400 c13309200 b18745200 c15123600 b13302000 c18752400 b12697200 c18752400 b13302000 c18147600 b13302000 c18147600 b13302000 c18147600 b13302000 c18147600 b13302000 c18752400 b13302000 c18147600 b13302000 c18147600 b13302000 c18147600 b13302000 c18147600 b13302000 c18752400 b12697200 c18752400 b13302000 c18147600 b13302000 c18147600 b13302000 c18147600 b13302000 c18147600 b13302000 c18752400 b12697200 c18752400 b13302000 c18147600 b13302000 c11581200 b114822000 c18147600 b13302000 c18147600 b13302000 c18147600 b13302000 c18147600 b13302000 c18752400 b12697200 c18752400 b13302000 c18147600 b13302000 c18147600 b13302000 c18147600 b13302000 c18147600 b16326000 c15728400 b15721200 c15728400 b15721200 c15728400 b15721200 c15728400 b15721200 c15728400 b16326000 c15728400 b15721200 c15728400 b15721200 c15728400 b15721200 c15728400 b15721200 c15728400 b16326000 c15123600 b16326000 c15728400 b15721200 c15728400 b15721200 c15728400 b15721200 c15728400 b15721200 c15728400 b16326000 c15728400 b15721200 c15728400 b15721200 c6051600 b25398000 c10285200 b21164400 c15728400 b16326000 c15123600 b16326000 c15728400 b15721200 c15728400 b15721200 c15728400 b15721200 c15728400 b15721200 c15728400 b16326000 c15123600 b16326000 c15728400 b15721200 c15728400 b15721200 c15728400 b15721200 c13914000 b17535600 c13914000 b18140400 c13309200 b18140400 c13309200 b18140400 c13914000 b17535600 c13914000 b17535600 c13914000 b18140400 c13309200 b18140400 c13309200 b18140400 c13914000 b17535600 c13914000 b17535600 c13914000 b17535600 c13914000 b18140400 c13309200 b18140400 c13309200 b18140400 c13914000 b17535600 c13914000 b17535600 c13914000 b18140400 c13309200 b18140400 c13309200 b18140400;2007 3 8 0 25200 c 11 1 0 21600 b"),
  ("America/Nome", "46702 -39698 -39600 -36000 -32400 -28800;b-3225223727 c1036276225 d1308751102 c114822000 d743907600 c15721200 d15728400 c15721200 d15728400 c16326000 d15728400 c15721200 d15728400 c15721200 d6051600 c25398000 d10285200 c21164400 d15728400 c16326000 d15123600 c16326000 d15728400 c15721200 d15728400 c15721200 d15728400 c15721200 d15728400 c15721200 d15728400 c16326000 d15123600 e16326000 f15721200 e15721200 f15728400 e15721200 f15728400 e15721200 f13914000 e17535600 f13914000 e18140400 f13309200 e18140400 f13309200 e18140400 f13914000 e17535600 f13914000 e17535600 f13914000 e18140400 f13309200 e18140400 f13309200 e18140400 f13914000 e17535600 f13914000 e17535600 f13914000 e17535600 f13914000 e18140400 f13309200 e18140400 f13309200 e18140400 f13914000 e17535600 f13914000 e17535600 f13914000 e18140400 f13309200 e18140400 f13309200 e18140400;2007 3 8 0 39600 f 11 1 0 36000 e"),
  ("America/Noronha", "-7780 -7200 -3600;b-1767217820 c560256620 b15595200 c15987600 b15548400 c526006800 b11750400 c19785600 b10450800 c21085200 b10537200 c21085200 b7772400 c339987600 b7167600 c29034000 b5094000 c21171600 b7772400 c21171600 b10364400 c21171600 b10450800 c557715600 b11487600 c19357200 b9673200 c21862800 b9068400 c21776400 b9068400 c22381200 b10278000 c304218000 b12697200 c19357200 b601200 c31453200 b10882800;"),
  ("America/North_Dakota/Beulah", "-24427 -25200 -21600 -18000;b-2717643600 c1084370400 b18140400 c13309200 b18140400 c703472400 b114822000 c681008400 b15721200 c15728400 b15721200 c15728400 b15721200 c15728400 b15721200 c15728400 b16326000 c15728400 b15721200 c15728400 b15721200 c6051600 b25398000 c10285200 b21164400 c15728400 b16326000 c15123600 b16326000 c15728400 b15721200 c15728400 b15721200 c15728400 b15721200 c15728400 b15721200 c15728400 b16326000 c15123600 b16326000 c15728400 b15721200 c15728400 b15721200 c15728400 b15721200 c13914000 b17535600 c13914000 b18140400 c13309200 b18140400 c13309200 b18140400 c13914000 b17535600 c13914000 b17535600 c13914000 b18140400 c13309200 b18140400 c13309200 b18140400 c13914000 b17535600 c13914000 b17535600 c13914000 b17535600 c13914000 b18140400 c13309200 b18140400 c13309200 b18140400 c13914000 b17535600 c13914000 b17535600 c13914000 b18140400 c13309200 b18140400 c13309200 b18140400 c11494800 b20559600 c10890000 b20559600 c10890000 b20559600 c11494800;2011 3 8 0 28800 d 11 1 0 25200 c"),
  ("America/North_Dakota/Center", "-24312 -25200 -21600 -18000;b-2717643600 c1084370400 b18140400 c13309200 b18140400 c703472400 b114822000 c681008400 b15721200 c15728400 b15721200 c15728400 b15721200 c15728400 b15721200 c15728400 b16326000 c15728400 b15721200 c15728400 b15721200 c6051600 b25398000 c10285200 b21164400 c15728400 b16326000 c15123600 b16326000 c15728400 b15721200 c15728400 b15721200 c15728400 b15721200 c15728400 b15721200 c15728400 b16326000 c15123600 b16326000 c15728400 b15721200 c15728400 b15721200 c15728400 b15721200 c13914000 b17535600 c13914000 b18140400 c13309200 b18140400 c13309200 b18140400 c13914000 b17535600 c13914000 d31446000 c18140400 d13309200 c18140400 d13309200 c18140400 d13914000 c17535600 d13914000 c17535600 d13914000 c17535600 d13914000 c18140400 d13309200 c18140400 d13309200 c18140400 d13914000 c17535600 d13914000 c17535600 d13914000 c18140400 d13309200 c18140400 d13309200 c18140400;2007 3 8 0 28800 d 11 1 0 25200 c"),
  ("America/North_Dakota/New_Salem", "-24339 -25200 -21600 -18000;b-2717643600 c1084370400 b18140400 c13309200 b18140400 c703472400 b114822000 c681008400 b15721200 c15728400 b15721200 c15728400 b15721200 c15728400 b15721200 c15728400 b16326000 c15728400 b15721200 c15728400 b15721200 c6051600 b25398000 c10285200 b21164400 c15728400 b16326000 c15123600 b16326000 c15728400 b15721200 c15728400 b15721200 c15728400 b15721200 c15728400 b15721200 c15728400 b16326000 c15123600 b16326000 c15728400 b15721200 c15728400 b15721200 c15728400 b15721200 c13914000 b17535600 c13914000 b18140400 c13309200 b18140400 c13309200 b18140400 c13914000 b17535600 c13914000 b17535600 c13914000 b18140400 c13309200 b18140400 c13309200 b18140400 c13914000 b17535600 c13914000 b17535600 c13914000 b17535600 c13914000 b18140400 c13309200 b18140400 c13309200 b18140400 c13914000 b17535600 c13914000 d31446000 c18140400 d13309200 c18140400 d13309200 c18140400;2007 3 8 0 28800 d 11 1 0 25200 c"),
  ("America/Nuuk", "-12416 -10800 -7200 -3600;b-1686083584 c2009928784 b15105600 c15724800 b15724800 c15724800 b15724800 c15724800 b15724800 c15724800 b16329600 c15724800 b15724800 c15724800 b15724800 c15724800 b15724800 c15724800 b15724800 c15724800 b15724800 c15724800 b16329600 c15724800 b15724800 c15724800 b15724800 c15724800 b15724800 c15724800 b15724800 c15724800 b15724800 c16329600 b18144000 c13305600 b18144000 c13305600 b18144000 c13305600 b18748800 c12700800 b18748800 c12700800 b18748800 c13305600 b18144000 c13305600 b18144000 c13305600 b18748800 c12700800 b18748800 c12700800 b18748800 c12700800 b18748800 c13305600 b18144000 c13305600 b18144000 c13305600 b18748800 c12700800 b18748800 c12700800 b18748800 c13305600 b18144000 c13305600 b18144000 c13305600 b18144000 c13305600 b18748800 c12700800 b18748800 c12700800 b18748800 c13305600 b18144000 c13305600 b18144000 c13305600 b18748800 c12700800 b18748800 c12700800;2024 3 25 0 3600 d 10 25 0 3600 c"),
  ("America/Ojinaga", "-25060 -25200 -21600 -18000;b-1514739600 c171590400 b108342000 c14346000 b13302000 c15814800 d2020208400 c17535600 d13914000 c17535600 b31453200 c13914000 b18140400 c13309200 b18140400 c16333200 b12697200 c16333200 b17535600 c13914000 b17535600 c13914000 b18140400 c13309200 b18140400 c13309200 b18140400 c13309200 b18140400 c13914000 b17535600 c13914000 b17535600 c12099600 b20559600 c10890000 b20559600 c10890000 b20559600 c10890000 b20559600 c10890000 b20559600 c10890000 b20559600 c11494800 b20559600 c10890000 b20559600 c10890000 b20559600 c10890000 b20559600 c10890000 b20559600 c11494800 b20559600 c10890000;2023 3 8 0 28800 d 11 1 0 25200 c"),
  ("America/Panama", "-19088 -19176 -18000;b-2524502512 c577584088;"),
  ("America/Paramaribo", "-13240 -13252 -13236 -12600 -10800;b-1861906760 c757382412 d339206384 e1230767364;"),
  ("America/Phoenix", "-26898 -25200 -21600;b-2717643600 c1084370400 b18140400 c13309200 b18140400 c703472400 b59691660 c7866000 b15807600 c712465140 b15721200;"),
  ("America/Port-au-Prince", "-17360 -17340 -18000 -14400;b-2524504240 c854020780 d2091701460 c15116400 d15728400 c15721200 d15728400 c15721200 d15728400 c15721200 d15728400 c15721200 d13917600 c18144000 d13305600 c18144000 d13305600 c18144000 d13910400 c17539200 d13910400 c17539200 d13910400 c18144000 d13305600 c18144000 d13305600 c18144000 d13910400 c17539200 d13910400 c17539200 d234658800 c18140400 d13309200 c18140400 d169354800 c20559600 d10890000 c20559600 d10890000 c20559600 d10890000 c20559600;2017 3 8 0 25200 d 11 1 0 21600 c"),
  ("America/Porto_Velho", "-15336 -14400 -10800;b-1767210264 c560256264 b15595200 c15987600 b15548400 c526006800 b11750400 c19785600 b10450800 c21085200 b10537200 c21085200 b7772400 c339987600 b7167600 c29034000 b5094000 c21171600 b7772400 c21171600 b10364400 c21171600 b10450800 c557715600 b11487600 c19357200 b9673200 c21862800 b9068400;"),
  ("America/Puerto_Rico", "-15865 -14400 -10800;b-2233035335 c1359977735 b107658000;"),
  ("America/Punta_Arenas", "-17020 -16965 -18000 -14400 -10800;b-2524504580 c631843145 b204250635 d69205365 b25399035 d257820165 c18400635 d13222800 c18313200 d13222800 c18313200 d13222800 c18313200 d13222800 c18399600 d13222800 c307580400 d5274000 c147222000 d4406400 e677030400 d12697200 e20566800 d10882800 e16938000 d13302000 e18147600 d13302000 e18752400 d12697200 e17542800 d13906800 e18752400 d12697200 e18752400 d13302000 e18147600 d13302000 e18147600 d13302000 e18752400 d12697200 e18752400 d12697200 e18752400 d13302000 e18147600 d13302000 e18147600 d13302000 e18147600 d13302000 e18752400 d12697200 e18752400 d12697200 e18752400 d15721200 e15728400 d13302000 e18147600 d13302000 e18752400 d12697200 e16333200 d15116400 e18752400 d13302000 e18147600 d13302000 e18147600 d13302000 e18147600 d13302000 e18752400 d12697200 e18752400 d14511600 e16938000 d13302000 e16938000 d16326000 e16333200 d13302000 e18752400 d12697200 e18752400 d12697200 e18752400 d12697200 e18752400 d13302000 e18147600 d13302000 e18147600 d13302000 e18752400 d12697200 e18752400 d14511600 e16938000 d13302000 e18147600 d15116400 e16333200 d18140400 e9075600 d21769200 e10890000 d20559600 e11494800 d19954800 e11494800 d53218800 e7866000;"),
  ("America/Rankin_Inlet", "0 -21600 -18000;b-410227200 c483696000 b15721200 c15728400 b15721200 c15728400 b15721200 c15728400 b15721200 c15728400 b16326000 c15123600 b16326000 c15728400 b15721200 c15728400 b15721200 c15728400 b15721200 c15728400 b15721200 c15728400 b16326000 c15123600 b16326000 c15728400 b15721200 c15728400 b15721200 c15728400 b15721200 c13914000 b17535600 c13914000 b18140400 c13309200 b18140400 c13309200 b18140400 c13914000 b17535600 c13914000 b17535600 c13914000 b18140400 c13309200 b18140400 c13309200 b18140400 c13914000 b17535600 c13914000 b17535600 c13914000 b17535600 c13914000 b18140400 c13309200 b49590000 c13914000 b17535600 c13914000 b17535600 c13914000 b18140400 c13309200 b18140400 c13309200 b18140400;2007 3 8 0 28800 c 11 1 0 25200 b"),
  ("America/Recife", "-8376 -10800 -7200;b-1767217224 c560259624 b15595200 c15987600 b15548400 c526006800 b11750400 c19785600 b10450800 c21085200 b10537200 c21085200 b7772400 c339987600 b7167600 c29034000 b5094000 c21171600 b7772400 c21171600 b10364400 c21171600 b10450800 c557715600 b11487600 c19357200 b9673200 c21862800 b9068400 c21776400 b9068400 c22381200 b10278000 c304218000 b12697200 c19357200 b601200 c31453200 b10882800;"),
  ("America/Regina", "-25116 -25200 -21600;b-2030202084 c398138484 b16930800 c363481200 b13302000 c18147600 b13302000 c18147600 b13302000 c18752400 b12697200 c18752400 b13302000 c79232400 b15721200 c15728400 b15116400 c16333200 b15721200 c16333200 b15721200 c15728400 b15721200 c10378800 b114822000 c16938000 b15721200 c16938000 b13302000 c18147600 b13302000 c18147600 b13302000 c18752400 b12697200 c18752400 b13302000 c18147600 b13302000 c18147600 b13302000 c18147600 b13302000 c18147600 b13302000 c18752400 b13302000 c18147600 b13302000 c49597200 b15721200 c15728400;"),
  ("America/Resolute", "0 -21600 -18000;b-704937600 c778406400 b15721200 c15728400 b15721200 c15728400 b15721200 c15728400 b15721200 c15728400 b16326000 c15123600 b16326000 c15728400 b15721200 c15728400 b15721200 c15728400 b15721200 c15728400 b15721200 c15728400 b16326000 c15123600 b16326000 c15728400 b15721200 c15728400 b15721200 c15728400 b15721200 c13914000 b17535600 c13914000 b18140400 c13309200 b18140400 c13309200 b18140400 c13914000 b17535600 c13914000 b17535600 c13914000 b18140400 c13309200 b18140400 c13309200 b18140400 c13914000 b17535600 c13914000 b17535600 c13914000 b17535600 c13914000 b18140400 c13309200 b49590000 c13914000 b17535600 c13914000 b17535600 c13914000 b18140400 c13309200 b18140400 c13309200 b50194800;2008 3 8 0 28800 c 11 1 0 25200 b"),
  ("America/Rio_Branco", "-16272 -18000 -14400;b-1767209328 c560258928 b15595200 c15987600 b15548400 c526006800 b11750400 c19785600 b10450800 c21085200 b10537200 c21085200 b7772400 c339987600 b7167600 c29034000 b5094000 c21171600 b7772400 c21171600 b10364400 c21171600 b10450800 c557715600 b11487600 c19357200 b9673200 c21862800 b9068400 c643078800 b169772400;"),
  ("America/Santarem", "-13128 -14400 -10800;b-1767212472 c560258472 b15595200 c15987600 b15548400 c526006800 b11750400 c19785600 b10450800 c21085200 b10537200 c21085200 b7772400 c339987600 b7167600 c29034000 b5094000 c21171600 b7772400 c21171600 b10364400 c21171600 b10450800 c557715600 b11487600 c19357200 b9673200 c21862800 b9068400 c643078800;"),
  ("America/Santiago", "-16965 -18000 -14400 -10800;b-1892661435 a204250635 c69205365 a25399035 c257820165 b18400635 c13222800 b18313200 c13222800 b18313200 c13222800 b18313200 c13222800 b18399600 c13222800 b307580400 c5274000 d124758000 c3884400 b18579600 c4406400 d677030400 c12697200 d20566800 c10882800 d16938000 c13302000 d18147600 c13302000 d18752400 c12697200 d17542800 c13906800 d18752400 c12697200 d18752400 c13302000 d18147600 c13302000 d18147600 c13302000 d18752400 c12697200 d18752400 c12697200 d18752400 c13302000 d18147600 c13302000 d18147600 c13302000 d18147600 c13302000 d18752400 c12697200 d18752400 c12697200 d18752400 c15721200 d15728400 c13302000 d18147600 c13302000 d18752400 c12697200 d16333200 c15116400 d18752400 c13302000 d18147600 c13302000 d18147600 c13302000 d18147600 c13302000 d18752400 c12697200 d18752400 c14511600 d16938000 c13302000 d16938000 c16326000 d16333200 c13302000 d18752400 c12697200 d18752400 c12697200 d18752400 c12697200 d18752400 c13302000 d18147600 c13302000 d18147600 c13302000 d18752400 c12697200 d18752400 c14511600 d16938000 c13302000 d18147600 c15116400 d16333200 c18140400 d9075600 c21769200 d10890000 c20559600 d11494800 c19954800 d11494800 c53218800 d7866000 c23583600 d7866000 c23583600 d7866000 c20559600 d13309200 c18140400 d13309200 c18140400 d13309200 c18140400 d13914000;2023 4 2 0 10800 c 9 2 0 14400 d"),
  ("America/Santo_Domingo", "-16776 -16800 -18000 -14400 -16200;b-2524504824 c1364731224 d1059654000 c10450800 e83898000 c10193400 e21256200 c7515000 e24539400 c7083000 e24366600 c7255800 e24193800 c7342200 d24107400 c820717200 d3024000;"),
  ("America/Sao_Paulo", "-11188 -10800 -7200;b-1767214412 c560256812 b15595200 c15987600 b15548400 c526006800 b11750400 c19785600 b10450800 c21085200 b10537200 c21085200 b7772400 c335926800 b11228400 c29034000 b5094000 c21171600 b7772400 c21171600 b10364400 c21171600 b10450800 c557715600 b11487600 c19357200 b9673200 c21862800 b9068400 c21776400 b9068400 c22381200 b10278000 c21776400 b10278000 c21171600 b9673200 c22381200 b8463600 c22381200 b10882800 c20566800 b10882800 c20566800 b10278000 c20566800 b11487600 c20048400 b12610800 c19357200 b11487600 c19357200 b12697200 c19357200 b11487600 c20566800 b10882800 c22381200 b9068400 c21171600 b10278000 c22554000 b9500400 c20566800 b10882800 c22381200 b9673200 c19962000 b10882800 c21171600 b10278000 c21171600 b10882800 c20566800 b10882800 c20566800 b11487600 c20566800 b10278000 c21171600 b10278000 c21171600 b10882800 c20566800 b10882800 c20566800 b10882800 c20566800 b10882800 c22381200 b9068400;"),
  ("America/Scoresbysund", "-5272 -7200 -3600 0;b-1686090728 c2009932328 b15120000 d15717600 c15721200 d15724800 c15724800 d15724800 c15724800 d15724800 c16329600 d15724800 c15724800 d15724800 c15724800 d15724800 c15724800 d15724800 c15724800 d15724800 c15724800 d15724800 c16329600 d15724800 c15724800 d15724800 c15724800 d15724800 c15724800 d15724800 c15724800 d15724800 c15724800 d16329600 c18144000 d13305600 c18144000 d13305600 c18144000 d13305600 c18748800 d12700800 c18748800 d12700800 c18748800 d13305600 c18144000 d13305600 c18144000 d13305600 c18748800 d12700800 c18748800 d12700800 c18748800 d12700800 c18748800 d13305600 c18144000 d13305600 c18144000 d13305600 c18748800 d12700800 c18748800 d12700800 c18748800 d13305600 c18144000 d13305600 c18144000 d13305600 c18144000 d13305600 c18748800 d12700800 c18748800 d12700800 c18748800 d13305600 c18144000 d13305600 c18144000 d13305600 c18748800 d12700800 c18748800 d12700800 c18748800 b31449600;2025 3 25 0 3600 c 10 25 0 3600 b"),
  ("America/Sitka", "53927 -32473 -28800 -25200 -32400;b-3225223727 c1036269000 d1308747527 c114822000 d743907600 c15721200 d15728400 c15721200 d15728400 c16326000 d15728400 c15721200 d15728400 c15721200 d6051600 c25398000 d10285200 c21164400 d15728400 c16326000 d15123600 c16326000 d15728400 c15721200 d15728400 c15721200 d15728400 c15721200 d15728400 c15721200 d15728400 c16326000 d15123600 e16326000 c15732000 e15721200 c15728400 e15721200 c15728400 e15721200 c13914000 e17535600 c13914000 e18140400 c13309200 e18140400 c13309200 e18140400 c13914000 e17535600 c13914000 e17535600 c13914000 e18140400 c13309200 e18140400 c13309200 e18140400 c13914000 e17535600 c13914000 e17535600 c13914000 e17535600 c13914000 e18140400 c13309200 e18140400 c13309200 e18140400 c13914000 e17535600 c13914000 e17535600 c13914000 e18140400 c13309200 e18140400 c13309200 e18140400;2007 3 8 0 39600 c 11 1 0 36000 e"),
  ("America/St_Johns", "-12652 -9052 -12600 -9000 -5400;b-1664130548 a13993200 b18061200 a16930800 b16495200 a8550000 b22813200 a15721200 b15728400 a15721200 b16333200 a15116400 b16333200 a15116400 b16333200 a15116400 b16333200 a15116400 b16333200 a15721200 b15728400 a15721200 b16333200 a15116400 b16333200 a15116400 b16333200 a15116400 b16333200 a15116400 b16333200 a15721200 b16333200 a15116400 b16333200 a15116400 c13140000 d3193148 c15116400 d16941600 c12697200 d18752400 c12697200 d18752400 c12697200 d19357200 c12092400 d19357200 c12697200 d18752400 c12697200 d18752400 c106966800 d19357200 c12697200 d18752400 c12697200 d18752400 c12697200 d18752400 c12697200 d19357200 c12697200 d17542800 c13302000 d18147600 c13302000 d18147600 c13302000 d18147600 c13302000 d18147600 c13302000 d18752400 c13302000 d18147600 c13302000 d18147600 c13302000 d18147600 c13302000 d18147600 c16326000 d15728400 c15721200 d15728400 c15721200 d15728400 c15721200 d15728400 c15721200 d15728400 c16326000 d15123600 c16326000 d15728400 c15721200 d15728400 c15721200 d15728400 c15721200 d15728400 c15721200 d15728400 c16326000 d15728400 c15721200 d15728400 c15721200 d15728400 c15721200 d15728400 c15721200 d15728400 c16326000 d15123600 c16326000 d15728400 c15721200 d15728400 c15721200 d15728400 c15721200 d15728400 c15721200 d15728400 c16326000 d15123600 c16326000 d15728400 c15721200 d15728400 c15721200 d15728400 c15721200 d13906860 c17535600 e13914000 c18136800 d13312800 c18140400 d13309200 c18140400 d13914000 c17535600 d13914000 c17535600 d13914000 c18140400 d13309200 c18140400 d13309200 c18140400 d13914000 c17535600 d13914000 c17535600 d13914000 c17535600 d13914000 c18140400 d13309200 c18140400 d13309200 c18140400 d13914000 c17535600 d13914000 c17535600 d13914000 c18140400 d13309200 c18140400 d13309200 c18140400 d11494800 c20559600 d10890000 c20559600 d10890000 c20559600 d11494800 c20559600 d10890000 c20566740;2012 3 8 0 19800 d 11 1 0 16200 c"),
  ("America/Swift_Current", "-25880 -25200 -21600;b-2030201320 c398137720 b16930800 c734922000 b114822000 c18147600 b14511600 c16938000 b13302000 c18147600 b13302000 c18147600 b13302000 c239504400 b15721200 c47178000 b15721200 c15728400 b13302000 c18752400 b12697200 c334458000;"),
  ("America/Tegucigalpa", "-20932 -21600 -18000;b-1538503868 c2085523868 b12697200 c18752400 b12697200 c555814800 b7945200;"),
  ("America/Thule", "-16508 -14400 -10800;b-1686079492 c2356478692 b15721200 c15728400 b15721200 c16333200 b18140400 c13309200 b18140400 c13309200 b18140400 c13914000 b17535600 c13914000 b17535600 c13914000 b17535600 c13914000 b18140400 c13309200 b18140400 c13309200 b18140400 c13914000 b17535600 c13914000 b17535600 c13914000 b18140400 c13309200 b18140400 c13309200 b18140400;2007 3 8 0 21600 c 11 1 0 18000 b"),
  ("America/Tijuana", "-28084 -25200 -28800;b-1514739600 c63072000 b108522000 c108342000 b11840400 c15721200 b333421200 c112402800 b75344400 c24534000 b166500000 c13305600 b18144000 c13305600 b18748800 c13305600 b18144000 c13305600 b18144000 c13305600 b18144000 c13305600 b18144000 c13305600 b491706000 c16326000 b15123600 c16326000 b15728400 c15721200 b15728400 c15721200 b15728400 c15721200 b15728400 c15721200 b15728400 c16326000 b15123600 c16326000 b15728400 c15721200 b15728400 c15721200 b15728400 c15721200 b13914000 c17535600 b13914000 c18140400 b13309200 c18140400 b13309200 c18140400 b13914000 c17535600 b13914000 c17535600 b13914000 c18140400 b13309200 c18140400 b13309200 c18140400 b13914000 c17535600 b13914000 c17535600 b13914000 c17535600 b13914000 c18140400 b13309200 c18140400 b13309200 c18140400 b13914000 c17535600 b13914000 c17535600 b13914000 c18140400 b13309200 c18140400 b13309200 c18140400 b13309200 c18140400 b13914000 c17535600 b13914000 c17535600;2010 3 8 0 36000 b 11 1 0 32400 c"),
  ("America/Toronto", "-19052 -18000 -14400;b-2366736148 c734665348 b16930800 c13386600 b18055800 c16340400 b12690000 c19969200 b10623600 c20826000 b10882800 c20566800 b10882800 c19962000 b12092400 c19357200 b12092400 c19357200 b12092400 c19357200 b12697200 c18752400 b13302000 c18147600 b13302000 c18147600 b13302000 c18147600 b13302000 c18752400 b12697200 c18752400 b13302000 c18147600 b13302000 c18147600 b13302000 c18147600 b13302000 c18147600 b13302000 c18147600 b13302000 c18752400 b12697200 c18752400 b171154800 c18147600 b13302000 c18147600 b13302000 c18147600 b13302000 c18147600 b18745200 c13309200 b18140400 c13309200 b13302000 c18147600 b13302000 c18147600 b13302000 c18147600 b13302000 c18147600 b13302000 c18752400 b13302000 c18147600 b15721200 c15728400 b15721200 c15728400 b15721200 c15728400 b16326000 c15728400 b15721200 c15728400 b15721200 c15728400 b15721200 c15728400 b15721200 c15728400 b16326000 c15123600 b16326000 c15728400 b15721200 c15728400 b15721200 c15728400 b15721200 c15728400 b15721200 c15728400 b16326000 c15728400 b15721200 c15728400 b15721200 c15728400 b15721200 c15728400 b15721200 c15728400 b16326000 c15123600 b16326000 c15728400 b15721200 c15728400 b15721200 c15728400 b15721200 c15728400 b15721200 c15728400 b16326000 c15123600 b16326000 c15728400 b15721200 c15728400 b15721200 c15728400 b15721200 c13914000 b17535600 c13914000 b18140400 c13309200 b18140400 c13309200 b18140400 c13914000 b17535600 c13914000 b17535600 c13914000 b18140400 c13309200 b18140400 c13309200 b18140400 c13914000 b17535600 c13914000 b17535600 c13914000 b17535600 c13914000 b18140400 c13309200 b18140400 c13309200 b18140400 c13914000 b17535600 c13914000 b17535600 c13914000 b18140400 c13309200 b18140400 c13309200 b18140400;2007 3 8 0 25200 c 11 1 0 21600 b"),
  ("America/Vancouver", "-29548 -28800 -25200;b-2713880852 c1081820852 b16930800 c734922000 b114822000 c18147600 b13302000 c18147600 b13302000 c18147600 b13302000 c18147600 b13302000 c18752400 b12697200 c18752400 b13302000 c18147600 b13302000 c18147600 b13302000 c18147600 b13302000 c18147600 b13302000 c18752400 b13302000 c18147600 b13302000 c18147600 b13302000 c18147600 b13302000 c18147600 b13302000 c18752400 b12697200 c18752400 b15721200 c15728400 b15721200 c15728400 b15721200 c15728400 b16326000 c15123600 b16326000 c15728400 b15721200 c15728400 b15721200 c15728400 b15721200 c15728400 b15721200 c15728400 b16326000 c15728400 b15721200 c15728400 b15721200 c15728400 b15721200 c15728400 b15721200 c15728400 b16326000 c15123600 b16326000 c15728400 b15721200 c15728400 b15721200 c15728400 b15721200 c15728400 b15721200 c15728400 b16326000 c15123600 b16326000 c15728400 b15721200 c15728400 b15721200 c15728400 b15721200 c13914000 b17535600 c13914000 b18140400 c13309200 b18140400 c13309200 b18140400 c13914000 b17535600 c13914000 b17535600 c13914000 b18140400 c13309200 b18140400 c13309200 b18140400 c13914000 b17535600 c13914000 b17535600 c13914000 b17535600 c13914000 b18140400 c13309200 b18140400 c13309200 b18140400 c13914000 b17535600 c13914000 b17535600 c13914000 b18140400 c13309200 b18140400 c13309200 b18140400;2007 3 8 0 36000 c 11 1 0 32400 b"),
  ("America/Whitehorse", "-32412 -32400 -28800 -25200;b-2188997988 c556941588 b16930800 c18147600 b13813200 c702961200 b114822000 d617497200 b16329600 c10281600 d446950800 c15721200 d15728400 c15721200 d15728400 c16326000 d15123600 c16326000 d15728400 c15721200 d15728400 c15721200 d15728400 c15721200 d13914000 c17535600 d13914000 c18140400 d13309200 c18140400 d13309200 c18140400 d13914000 c17535600 d13914000 c17535600 d13914000 c18140400 d13309200 c18140400 d13309200 c18140400 d13914000 c17535600 d13914000 c17535600 d13914000 c17535600 d13914000 c18140400 d13309200 c18140400 d13309200 c18140400 d13914000 c17535600 d13914000 c17535600 d13914000 c18140400 d13309200 c18140400 d13309200 c18140400 d11494800 c20559600 d10890000 c20559600 d10890000 c20559600 d11494800 c20559600 d10890000 c20559600 d10890000 c20559600 d10890000 c20559600 d10890000 c20559600 d10890000 c20559600 d11494800 c20559600 d10890000 c20559600 d10890000 c20559600 d10890000 c20559600 d10890000;"),
  ("America/Winnipeg", "-23316 -21600 -18000;b-2602258284 c907889484 b12697200 c49604400 b16930800 c585450000 b11487600 c137984400 b114822000 c19357200 b13302000 c16938000 b13302000 c18147600 b13302000 c18147600 b13302000 c18838800 b13129200 c18234000 b13302000 c18147600 b13302000 c18147600 b13302000 c18147600 b13302000 c18147600 b13302000 c18752400 b13302000 c18147600 b13302000 c18147600 b13302000 c18147600 b15721200 c15728400 b13302000 c81651600 b12697200 c81651600 b16329600 c15724800 b15724800 c15724800 b15724800 c15724800 b15724800 c15724800 b15724800 c15724800 b16329600 c15724800 b15724800 c15724800 b15724800 c15724800 b15724800 c15724800 b15724800 c15724800 b16329600 c15120000 b16329600 c15724800 b15724800 c15724800 b15724800 c15724800 b15724800 c15724800 b15724800 c15724800 b16329600 c15120000 b16329600 c15724800 b15724800 c15724800 b15724800 c15724800 b15724800 c13910400 b17539200 c13910400 b18144000 c13305600 b18144000 c13305600 b18144000 c13910400 b17539200 c13910400 b17539200 c13910400 b18144000 c13305600 b18144000 c13305600 b18144000 c13910400 b17539200 c13910400 b17539200 c13910400 b17539200 c13910400 b18144000 c13305600 b18144000 c13305600 b18144000 c13910400 b17539200 c13910400 b17539200 c13910400 b18144000 c13305600 b18144000 c13305600 b18140400;2007 3 8 0 28800 c 11 1 0 25200 b"),
  ("America/Yakutat", "52865 -33535 -32400 -28800;b-3225223727 c1036270062 d1308750065 c114822000 d743907600 c15721200 d15728400 c15721200 d15728400 c16326000 d15728400 c15721200 d15728400 c15721200 d6051600 c25398000 d10285200 c21164400 d15728400 c16326000 d15123600 c16326000 d15728400 c15721200 d15728400 c15721200 d15728400 c15721200 d15728400 c15721200 d15728400 c16326000 d15123600 c16326000 d15728400 c15721200 d15728400 c15721200 d15728400 c15721200 d13914000 c17535600 d13914000 c18140400 d13309200 c18140400 d13309200 c18140400 d13914000 c17535600 d13914000 c17535600 d13914000 c18140400 d13309200 c18140400 d13309200 c18140400 d13914000 c17535600 d13914000 c17535600 d13914000 c17535600 d13914000 c18140400 d13309200 c18140400 d13309200 c18140400 d13914000 c17535600 d13914000 c17535600 d13914000 c18140400 d13309200 c18140400 d13309200 c18140400;2007 3 8 0 39600 d 11 1 0 36000 c")]

def antarctica : List (String × String) := [
  ("Antarctica/Casey", "0 28800 39600;b-31536000 c1287338400 b11912400 c52023600 b10105200 c147222000 b43635600 c18154800 b13896000 c17377200 b13467600 c18144060 b13899540 c17550060 b13899540 c17550060 b13651140;"),
  ("Antarctica/Davis", "0 25200 18000;b-409190400 a246128400 b134204400 c1284663600 b12445200 c51490800 b10112400;"),
  ("Antarctica/Macquarie", "0 36000 39600;b-2214259200 c533750400 b15120000 a63669600 b914666400 c615916800 b15724800 c18144000 b11491200 c19958400 b11491200 c19958400 b12096000 c19958400 b10281600 c21168000 b10886400 c20563200 b10886400 c20563200 b10886400 c20563200 b11491200 c20563200 b10886400 c20563200 b10886400 c20563200 b10886400 c20563200 b10886400 c20563200 b10886400 c20563200 b13305600 c18748800 b12700800 c18748800 b10886400 c20563200 b10886400 c20563200 b10886400 c19958400 b12700800 c19353600 b12700800 c19353600 b12096000 c19353600 b12096000 c19353600 b13305600 c16329600 b15120000 c16329600 b15120000 c16329600 b15120000 c16329600 b15120000 c16329600 b15724800 c16329600 b15120000 c16329600 b15120000 c16329600 b15120000 c16329600 b15120000 c13305600 b18144000 c16934400 b15120000 c16329600 b15120000 c16329600 b15120000 c16329600 b15120000 c16329600 b15724800 c15724800 b15120000 c16934400 b15724800 c15724800 b15724800 c15724800;2011 4 1 0 -28800 b 10 1 0 -28800 c"),
  ("Antarctica/Mawson", "0 21600 18000;b-501206400 c1757016000;"),
  ("Antarctica/Palmer", "0 -10800 -14400 -7200;b-157766400 c5108400 b19702800 c11833200 b19702800 c14598000 b15728400 c16326000 b15728400 c15721200 b15728400 d135730800 b8463600 c252464400 b14000400 c13302000 b18147600 c13302000 b18752400 c12697200 b18752400 c12697200 b18752400 c15721200 b15728400 c13302000 b18147600 c13302000 b18752400 c12697200 b16333200 c15116400 b18752400 c13302000 b18147600 c13302000 b18147600 c13302000 b18147600 c13302000 b18752400 c12697200 b18752400 c14511600 b16938000 c13302000 b16938000 c16326000 b16333200 c13302000 b18752400 c12697200 b18752400 c12697200 b18752400 c12697200 b18752400 c13302000 b18147600 c13302000 b18147600 c13302000 b18752400 c12697200 b18752400 c14511600 b16938000 c13302000 b18147600 c15116400 b16333200 c18140400 b9075600 c21769200 b10890000 c20559600 b11494800 c19954800 b11494800 c53218800 b7866000;"),
  ("Antarctica/Rothera", "0 -10800;b218246400;"),
  ("Antarctica/Troll", "0 7200;;2005 3 25 0 3600 b 10 25 0 3600 a"),
  ("Antarctica/Vostok", "0 25200 18000;b-380073600 a1140109200 b23612400 c919191600;")]

def asia : List (String × String) := [
  ("Asia/Almaty", "18468 18000 21600 25200;b-1441170468 c193622868 d1602457200 c15807600 d15728400 c15807600 d15728400 c15807600 d15814800 c15732000 d15724800 c15724800 d15724800 c15724800 d15724800 c15724800 d15724800 c15724800 d15724800 c15724800 d15724800 c16329600 b31453200 c9676800 d6044400 c15724800 d15724800 c15724800 d15724800 c15724800 d15724800 c15724800 d16329600 c18144000 d13305600 c18144000 d13305600 c18144000 d13305600 c18748800 d12700800 c18748800 d12700800 c18748800 d13305600 c18144000 d13305600 c18144000 d13305600 c18748800 b610063200;"),
  ("Asia/Amman", "8624 7200 10800;b-1230776624 c1338942224 b10105200 c18320400 b13215600 c18320400 b13215600 c18406800 b15894000 c15642000 b13215600 c18234000 b13215600 c205203600 b15807600 c15987600 b15721200 c15728400 b15721200 c15728400 b16326000 c18406800 b13042800 c17542800 b13906800 c16765200 b14079600 c16938000 b15116400 c15728400 b15721200 c15728400 b14511600 c17542800 b13910400 c17539200 b14515200 c16934400 b14515200 c16934400 b14515200 c24710400 b7344000 c16243200 b15811200 c15638400 b15811200 c15724800 b15724800 c15724800 b18144000 c13305600 b17539200 c14515200 b15724800 c15724800 b18144000 c13305600 b18144000 c13305600 b18748800 c12700800 b18748800 c12700800 b18748800 c13305600 b18144000 c13305600 b54428400 c8470800 b18748800 c12700800 b18748800 c13305600 b18144000 c13305600 b18144000 c13305600 b18144000 c13305600 b18144000 c13305600 b18748800 c12700800 b18748800 c10281600;"),
  ("Asia/Anadyr", "42596 43200 46800 50400 39600;b-1441194596 c193621796 d1602457200 c15807600 b31539600 c15728400 b15807600 c15814800 b15732000 c15724800 b15724800 c15724800 b15724800 c15724800 b15724800 c15724800 b15724800 c15724800 b15724800 c15724800 b16329600 e31453200 b9676800 c6044400 b15724800 c15724800 b15724800 c15724800 b15724800 c15724800 b15724800 c16329600 b18144000 c13305600 b18144000 c13305600 b18144000 c13305600 b18748800 c12700800 b18748800 c12700800 b18748800 c13305600 b18144000 c13305600 b18144000 c13305600 b18748800 c12700800 b18748800 c12700800 b18748800 c12700800 b18748800 c13305600 b18144000 c13305600 b18144000 e32058000 b12700800;"),
  ("Asia/Aqtau", "12064 14400 18000 21600;b-1441164064 c193620064 d1618268400 c31532400 d15728400 c15807600 d15814800 c15732000 d15724800 c15724800 d15724800 c15724800 d15724800 c15724800 d15724800 c15724800 d15724800 c15724800 d15724800 c16329600 b31453200 c9676800 d6044400 c15724800 d15724800 c15724800 d15724800 b15724800 c15728400 b15724800 c16329600 b18144000 c13305600 b18144000 c13305600 b18144000 c13305600 b18748800 c12700800 b18748800 c12700800 b18748800 c13305600 b18144000 c13305600 b18144000 c13305600;"),
  ("Asia/Aqtobe", "13720 14400 18000 21600;b-1441165720 c193621720 d1602457200 c47343600 d15728400 c15807600 d15814800 c15732000 d15724800 c15724800 d15724800 c15724800 d15724800 c15724800 d15724800 c15724800 d15724800 c15724800 d15724800 c16329600 b31453200 c9676800 d6044400 c15724800 d15724800 c15724800 d15724800 c15724800 d15724800 c15724800 d16329600 c18144000 d13305600 c18144000 d13305600 c18144000 d13305600 c18748800 d12700800 c18748800 d12700800 c18748800 d13305600 c18144000 d13305600 c18144000 d13305600 c18748800;"),
  ("Asia/Ashgabat", "14012 14400 18000 21600;b-1441166012 c193622012 d1602457200 c15807600 d15728400 c15807600 d15728400 c15807600 d15814800 c15732000 d15724800 c15724800 d15724800 c15724800 d15724800 c15724800 d15724800 c15724800 d15724800 c15724800 d15724800 c16329600 b31453200 c9676800;"),
  ("Asia/Atyrau", "12464 10800 18000 21600 14400;b-1441164464 c193624064 d1618264800 c31532400 d15728400 c15807600 d15814800 c15732000 d15724800 c15724800 d15724800 c15724800 d15724800 c15724800 d15724800 c15724800 d15724800 c15724800 d15724800 c16329600 e31453200 c9676800 d6044400 c15724800 d15724800 c15724800 d15724800 c15724800 d15724800 c15724800 d16329600 c18144000 d13305600 c18144000 d13305600 c18144000 e32058000 c12700800 e18748800 c12700800 e18748800 c13305600 e18144000 c13305600 e18144000 c13305600;"),
  ("Asia/Baghdad", "10660 10656 10800 14400;b-2524532260 c883526404 d2030054256 c13215600 d15642000 c15894000 d15814800 c15807600 d15728400 c15642000 d15724800 c15724800 d15724800 c15724800 d15724800 c15724800 d15724800 c15724800 d15724800 c16329600 d15818400 c15811200 d15811200 c15811200 d15724800 c15811200 d15724800 c15811200 d15724800 c15811200 d15811200 c15811200 d15724800 c15811200 d15724800 c15811200 d15724800 c15811200 d15811200 c15811200 d15724800 c15811200 d15724800 c15811200 d15724800 c15811200 d15811200 c15811200 d15724800 c15811200 d15724800 c15811200 d15724800 c15811200;"),
  ("Asia/Baku", "11964 10800 14400 18000;b-1441163964 c1036023564 d760057200 c15807600 d15728400 c15807600 d15728400 c15807600 d15814800 c15732000 d15724800 c15724800 d15724800 c15724800 d15724800 c15724800 d15724800 c15724800 d15724800 c15724800 d15724800 c16329600 b31453200 c15724800 d126410400 c18144000 d13302000 c18144000 d13305600 c18144000 d13305600 c18748800 d12700800 c18748800 d12700800 c18748800 d13305600 c18144000 d13305600 c18144000 d13305600 c18748800 d12700800 c18748800 d12700800 c18748800 d12700800 c18748800 d13305600 c18144000 d13305600 c18144000 d13305600 c18748800 d12700800 c18748800 d12700800 c18748800 d13305600 c18144000 d13305600 c18144000 d13305600 c18144000;"),
  ("Asia/Bangkok", "24124 25200;b-1570084924;"),
  ("Asia/Barnaul", "20100 21600 25200 28800;b-1579844100 c332292900 d1602457200 c15807600 d15728400 c15807600 d15728400 c15807600 d15814800 c15732000 d15724800 c15724800 d15724800 c15724800 d15724800 c15724800 d15724800 c15724800 d15724800 c15724800 d15724800 c16329600 b31453200 c9676800 d6044400 c15724800 d15724800 c15724800 d15724800 c15724800 d15724800 c5432400 b10296000 c16329600 b18144000 c13305600 b18144000 c13305600 b18144000 c13305600 b18748800 c12700800 b18748800 c12700800 b18748800 c13305600 b18144000 c13305600 b18144000 c13305600 b18748800 c12700800 b18748800 c12700800 b18748800 c12700800 b18748800 c13305600 b18144000 c13305600 b18144000 c13305600 b18748800 c12700800 b113094000 c44758800;"),
  ("Asia/Beirut", "8520 7200 10800;b-2840149320 c1269735720 b18226800 c13827600 b15807600 c15037200 b16930800 c16938000 b12697200 c1061082000 b13215600 c18320400 b13215600 c18320400 b13215600 c18406800 b13215600 c18320400 b13215600 c338432400 b8722800 c18320400 b13215600 c18320400 b13215600 c18320400 b13215600 c18406800 b13215600 c18320400 b13215600 c18234000 b13215600 c176259600 b14511600 c17024400 b14511600 c17024400 b14511600 c17024400 b14511600 c19789200 b11833200 c17802000 b13734000 c17024400 b14511600 c17024400 b14511600 c17110800 b13474800 c15123600 b15721200 c15728400 b15721200 c15728400 b15721200 c16333200 b15721200 c15728400 b15721200 c15728400 b15721200;1999 3 25 0 -7200 c 10 25 0 -10800 b"),
  ("Asia/Bishkek", "17904 18000 21600 25200;b-1441169904 c193622304 d1602457200 c15807600 d15728400 c15807600 d15728400 c15807600 d15814800 c15732000 d15724800 c15724800 d15724800 c15724800 d15724800 c15724800 d15724800 c15724800 d15724800 c15724800 d15724800 c16329600 b28944000 c19436400 b14511600 c16938000 b14511600 c16938000 b14511600 c16938000 b14511600 c16938000 b15116400 c15737400 b18140400 c13309200 b18140400 c13309200 b18745200 c12704400 b18745200 c12704400 b18745200 c13309200 b18140400 c13309200 b18140400 c13309200 b18745200 c12704400;"),
  ("Asia/Chita", "27232 28800 32400 36000;b-1579419232 c331860832 d1602457200 c15807600 d15728400 c15807600 d15728400 c15807600 d15814800 c15732000 d15724800 c15724800 d15724800 c15724800 d15724800 c15724800 d15724800 c15724800 d15724800 c15724800 d15724800 c16329600 b31453200 c9676800 d6044400 c15724800 d15724800 c15724800 d15724800 c15724800 d15724800 c15724800 d16329600 c18144000 d13305600 c18144000 d13305600 c18144000 d13305600 c18748800 d12700800 c18748800 d12700800 c18748800 d13305600 c18144000 d13305600 c18144000 d13305600 c18748800 d12700800 c18748800 d12700800 c18748800 d12700800 c18748800 d13305600 c18144000 d13305600 c18144000 d13305600 c18748800 d12700800 b113094000 c44762400;"),
  ("Asia/Colombo", "19164 19172 19800 21600 23400;b-2840159964 c820454392 d1136418572 e20647800 c98587800 e1597014000 d13303800 c298773000;"),
  ("Asia/Damascus", "8712 7200 10800;b-1577931912 c9339912 b14511600 c16938000 b14511600 c16938000 b14511600 c16938000 b15116400 c1216861200 b13388400 c18320400 b13129200 c18493200 b13215600 c18320400 b13129200 c17802000 b13820400 c18320400 b13215600 c18406800 b13215600 c18320400 b13215600 c18320400 b13215600 c18320400 b13215600 c18406800 b13215600 c18320400 b13215600 c18320400 b13215600 c18320400 b13215600 c18406800 b13215600 c18320400 b10623600 c20912400 b10623600 c145242000 b15116400 c16506000 b15116400 c43462800 b20300400 c12358800 b21078000 c11754000 b19868400 c13050000 b15894000 c15728400 b15721200 c15807600 b15807600 c16419600 b15202800 c15210000 b15807600 c16246800 b15807600 c15728400 b15807600 c15814800 b15807600 c15642000 b15894000 c15555600 b15980400 c15728400 b15807600 c15814800 b15807600 c15728400 b15807600 c15728400 b15807600 c15728400 b15807600 c15814800 b15807600 c15728400 b15807600 c15728400 b15030000 c16333200 b18745200 c13309200 b18226800 c12618000 b18745200 c13309200 b18140400 c13309200 b18140400 c13309200 b18140400 c13309200 b18140400 c13309200 b18745200 c12704400 b18745200 c12704400 b18745200 c13309200 b18140400 c13309200 b18140400 c13309200 b18140400 c13309200 b18745200 c12704400 b18745200 c12704400;"),
  ("Asia/Dhaka", "21700 21200 23400 19800 21600 25200;b-2524543300 c1632960500 d19524200 c9421200 e286498800 f1821569400 e16848000;"),
  ("Asia/Dili", "30140 28800 32400;b-1830412800 c951260400 b1079049600 c769222800;"),
  ("Asia/Dubai", "13272 14400;b-1577936472;"),
  ("Asia/Dushanbe", "16512 18000 21600 25200;b-1441168512 c193620912 d1602457200 c15807600 d15728400 c15807600 d15728400 c15807600 d15814800 c15732000 d15724800 c15724800 d15724800 c15724800 d15724800 c15724800 d15724800 c15724800 d15724800 c15724800 d15724800 c16329600 b29725200;"),
  ("Asia/Famagusta", "8148 7200 10800;b-1518920148 c1685492148 b15721200 c18666000 b12870000 c15037200 b15116400 c16333200 b15807600 c15642000 b15721200 c16333200 b15116400 c15728400 b15721200 c15728400 b15721200 c15728400 b15721200 c15728400 b16326000 c15728400 b15721200 c15728400 b15721200 c15728400 b15721200 c15728400 b15721200 c15728400 b15721200 c15728400 b16326000 c15728400 b15721200 c15728400 b15721200 c15728400 b15721200 c15728400 b15721200 c15728400 b15721200 c16333200 b15721200 c15728400 b15721200 c15728400 b18154800 c13305600 b18748800 c12700800 b18748800 c12700800 b18748800 c13305600 b18144000 c13305600 b18144000 c13305600 b18748800 c12700800 b18748800 c12700800 b18748800 c12700800 b18748800 c13305600 b18144000 c13305600 b18144000 c13305600 b18748800 c12700800 b18748800 c12700800 b18748800 c13305600 b18144000 c13305600 b18144000 c13305600 b18144000 c13305600 b50198400;2018 3 25 0 3600 c 10 25 0 3600 b"),
  ("Asia/Gaza", "8272 7200 10800;b-2185409872 c1251771472 b10540800 c4060800 b61689600 c13046400 b18489600 c13132800 b18489600 c14342400 b17193600 c14342400 b17193600 c332028000 b12438000 c18320400 b13215600 c18324000 b13136400 c18486000 b13136400 c18399600 b13136400 c18399600 b13136400 c18399600 b13136400 c18486000 b13136400 c18399600 b13136400 c18399600 b13222800 c18313200 b3016800 c223693200 b8463600 c16333200 b11487600 c155437200 b3628800 c114912000 b9676800 c19958400 b12092400 c22381200 b9673200 c19011600 b13042800 c18147600 b12697200 c20566800 b10882800 c17542800 b13302000 c18147600 b13906800 c18147600 b13906800 c17974800 b13474800 c17974800 b12870000 c18579600 b13474800 c18579600 b14515200 c16934400 b14515200 c16934400 b14515200 c18144000 b15721200 c16333200 b15721200 c15728400 b15721200 c15728400 b15721200 c15728400 b15721200 c15728400 b14515200 c16934400 b14864400 c15462000 b15030000 c16506000 b14259600 c17017200 b13302000 c18147600 b13910400 c17625660 b11833140 c20134860 b10537140 c20912400 b15120000 c16329600 b15721200 c15728400 b18140400 c13395600 b18057600 c13395600 b18745200 c12704400 b18745200 c12704400 b18745200 c13219200 b18226800 c13309200 b18144000 c13305600 b18662400 c12873600 b18666000 c15728400 b15721200 c15123600 b16326000 c14518800 b16930800 c13309200 b18140400 c13309200 b18745200 c12704400 b18745200 c12704400 b18745200 c13309200 b18140400 c13309200 b18140400 c13309200 b18745200 c12704400 b18745200 c12704400 b18745200 c12704400 b18745200 c13309200 b17535600 c13914000 b16930800 c14518800 b15721200 c15728400 b15116400 c16333200 b13906800 c4237200 b601200 c13309200 b12697200 c3632400 b1810800 c13309200 b12092400 c3632400 b2415600 c13309200 b10882800 c4237200 b3020400 c13309200 b10278000 c3632400 b4834800 c12704400 b9673200 c3632400 b5439600 c12704400 b8463600 c4237200 b6044400 c13309200 b7254000 c3632400 b7254000 c13309200 b6044400 c4237200 b7858800 c13309200 b5439600 c3632400 b9673200 c12704400 b4834800 c3632400 b10278000 c12704400 b3625200 c4237200 b10882800 c13309200 b2415600 c3632400 b12092400 c13309200 b1206000 c4237200 b12697200 c13309200 b601200 c4237200 b13302000 c16938000 b15116400 c15728400 b15721200 c14518800 b16930800 c13914000 b17535600 c13309200 b18140400 c13309200 b18745200 c12704400 b18745200 c12704400 b18745200 c12704400 b18745200 c13309200 b18140400 c13309200 b18140400 c13309200 b18745200 c12704400 b18745200 c12704400 b18140400 c13914000 b16930800 c14518800 b16326000 c15123600 b15116400 c16333200 b14511600 c3632400 b601200 c12704400 b13906800 c3632400 b1206000 c12704400 b12697200 c4237200 b1810800 c13309200 b11487600 c3632400 b3020400 c13309200 b10278000 c4237200 b3625200 c13309200 b9673200 c4237200 b4834800 c12704400 b9068400 c3632400 b6044400 c12704400 b7858800 c4237200 b6649200 c13309200 b6649200 c3632400 b7858800 c13309200 b6044400 c3632400 b8463600 c13309200 b4834800 c4237200 b9068400 c13309200 b4230000 c3632400 b10882800 c12704400 b3020400 c4237200 b11487600 c12704400 b2415600 c4237200 b12092400 c13309200 b1206000 c3632400 b13302000;2087 3 24 6 0 c 10 24 6 -3600 b"),
  ("Asia/Hebron", "8423 7200 10800;b-2185410023 c1251771623 b10540800 c4060800 b61689600 c13046400 b18489600 c13132800 b18489600 c14342400 b17193600 c14342400 b17193600 c332028000 b12438000 c18320400 b13215600 c18324000 b13136400 c18486000 b13136400 c18399600 b13136400 c18399600 b13136400 c18399600 b13136400 c18486000 b13136400 c18399600 b13136400 c18399600 b13222800 c18313200 b3016800 c223693200 b8463600 c16333200 b11487600 c155437200 b3628800 c114912000 b9676800 c19958400 b12092400 c22381200 b9673200 c19011600 b13042800 c18147600 b12697200 c20566800 b10882800 c17542800 b13302000 c18147600 b13906800 c18147600 b13906800 c17974800 b13474800 c17974800 b12870000 c18579600 b13474800 c18579600 b14515200 c16934400 b14515200 c16934400 b14515200 c18144000 b15721200 c16333200 b15721200 c15728400 b15721200 c15728400 b15721200 c15728400 b15721200 c15728400 b14515200 c16934400 b14864400 c15462000 b15030000 c16506000 b14259600 c17017200 b13561200 c17888400 b13910400 c17539200 b11919600 c20134860 b10537140 c2509200 b2674800 c15728400 b15120000 c16329600 b15721200 c15728400 b18140400 c13395600 b18057600 c13395600 b18745200 c12704400 b18745200 c12704400 b18745200 c13219200 b18226800 c13309200 b18144000 c13305600 b18662400 c12873600 b18666000 c15728400 b15721200 c15123600 b16326000 c14518800 b16930800 c13309200 b18140400 c13309200 b18745200 c12704400 b18745200 c12704400 b18745200 c13309200 b18140400 c13309200 b18140400 c13309200 b18745200 c12704400 b18745200 c12704400 b18745200 c12704400 b18745200 c13309200 b17535600 c13914000 b16930800 c14518800 b15721200 c15728400 b15116400 c16333200 b13906800 c4237200 b601200 c13309200 b12697200 c3632400 b1810800 c13309200 b12092400 c3632400 b2415600 c13309200 b10882800 c4237200 b3020400 c13309200 b10278000 c3632400 b4834800 c12704400 b9673200 c3632400 b5439600 c12704400 b8463600 c4237200 b6044400 c13309200 b7254000 c3632400 b7254000 c13309200 b6044400 c4237200 b7858800 c13309200 b5439600 c3632400 b9673200 c12704400 b4834800 c3632400 b10278000 c12704400 b3625200 c4237200 b10882800 c13309200 b2415600 c3632400 b12092400 c13309200 b1206000 c4237200 b12697200 c13309200 b601200 c4237200 b13302000 c16938000 b15116400 c15728400 b15721200 c14518800 b16930800 c13914000 b17535600 c13309200 b18140400 c13309200 b18745200 c12704400 b18745200 c12704400 b18745200 c12704400 b18745200 c13309200 b18140400 c13309200 b18140400 c13309200 b18745200 c12704400 b18745200 c12704400 b18140400 c13914000 b16930800 c14518800 b16326000 c15123600 b15116400 c16333200 b14511600 c3632400 b601200 c12704400 b13906800 c3632400 b1206000 c12704400 b12697200 c4237200 b1810800 c13309200 b11487600 c3632400 b3020400 c13309200 b10278000 c4237200 b3625200 c13309200 b9673200 c4237200 b4834800 c12704400 b9068400 c3632400 b6044400 c12704400 b7858800 c4237200 b6649200 c13309200 b6649200 c3632400 b7858800 c13309200 b6044400 c3632400 b8463600 c13309200 b4834800 c4237200 b9068400 c13309200 b4230000 c3632400 b10882800 c12704400 b3020400 c4237200 b11487600 c12704400 b2415600 c4237200 b12092400 c13309200 b1206000 c3632400 b13302000;2087 3 24 6 0 c 10 24 6 -3600 b"),
  ("Asia/Ho_Chi_Minh", "25590 25200 28800 32400;b-1851577590 c999471990 d69462000 b14774400 c49773600 b260323200 c142124400 b487468800;"),
  ("Asia/Hong_Kong", "27402 28800 32400 30600;b-2056690800 c1155780000 d9331200 c7331400 b123039000 c13302000 b19366200 c11491200 b19958400 c13305600 b15724800 c13305600 b18144000 c13305600 b18144000 c13305600 b18144000 c13910400 b18144000 c13305600 b18140400 c12099600 b19350000 c12099600 b19954800 c11494800 b19954800 c12099600 b19350000 c12099600 b19350000 c12099600 b19350000 c12099600 b19954800 c11494800 b19954800 c11494800 b19954800 c12099600 b19350000 c12099600 b19350000 c14518800 b15721200 c15728400 b15721200 c15728400 b16326000 c15728400 b15721200 c15728400 b15721200 c15728400 b15721200 c15728400 b15721200 c15728400 b16326000 c15728400 b15721200 c6051600 b25398000 c15728400 b15721200 c15728400 b15721200 c81046800 b13906800;"),
  ("Asia/Hovd", "21996 21600 25200 28800;b-2032927596 c2285366796 d165538800 c15807600 d15814800 c15721200 d15728400 c15721200 d15728400 c15721200 d15728400 c15721200 d15728400 c15721200 d15728400 c15721200 d15728400 c16326000 d15728400 c15721200 d15728400 c15721200 d15728400 c15721200 d15728400 c15721200 d15728400 c15721200 d16333200 c15721200 d15728400 c15721200 d15728400 c15721200 d81572400 c13302000 d15728400 c15721200 d15728400 c15721200 d15728400 c15721200 d15728400 c15721200 d15728400 c16326000 d267930000 c15714000 d15735600 c15714000;"),
  ("Asia/Irkutsk", "25025 25200 28800 32400;b-1575874625 c328319825 d1602457200 c15807600 d15728400 c15807600 d15728400 c15807600 d15814800 c15732000 d15724800 c15724800 d15724800 c15724800 d15724800 c15724800 d15724800 c15724800 d15724800 c15724800 d15724800 c16329600 b31453200 c9676800 d6044400 c15724800 d15724800 c15724800 d15724800 c15724800 d15724800 c15724800 d16329600 c18144000 d13305600 c18144000 d13305600 c18144000 d13305600 c18748800 d12700800 c18748800 d12700800 c18748800 d13305600 c18144000 d13305600 c18144000 d13305600 c18748800 d12700800 c18748800 d12700800 c18748800 d12700800 c18748800 d13305600 c18144000 d13305600 c18144000 d13305600 c18748800 d12700800 c113094000;"),
  ("Asia/Jakarta", "25632 26400 27000 32400 28800 25200;b-1451719200 c278812800 d296265000 c110586600 e82171800 c63070200 f431397000;"),
  ("Asia/Jayapura", "33768 32400 34200;b-1172913768 c373422168 b610068600;"),
  ("Asia/Jerusalem", "8454 8440 7200 10800 14400;b-2840149254 c1199145614 d707365240 c10540800 d4060800 c61689600 d13046400 c18489600 d13132800 c18489600 d14342400 c17193600 d14342400 c17193600 e49161600 d8726400 c5270400 d15638400 c15897600 d14342400 c13132800 d17107200 c19353600 d13910400 c15724800 d15120000 c13305600 d23587200 c7862400 d23587200 c7862400 d22982400 c10281600 d18144000 c12700800 d529797600 c8463600 d16333200 c11487600 d155437200 c3628800 d114912000 c9676800 d19958400 c12092400 d22381200 c9673200 d19011600 c13042800 d18147600 c12697200 d20566800 c10882800 d17542800 c13302000 d18147600 c13906800 d18147600 c13906800 d17974800 c13474800 d17974800 c12870000 d18579600 c13474800 d16765200 c15980400 d16074000 c15289200 d16160400 c14684400 d17982000 c13302000 d19357200 c15112800 d15987600 c14511600 d16074000 c16585200 d14864400 c16326000 d16160400 c14511600 d16509600 c16498800 d14950800 c15894000 d15555600 c14684400 d16765200 c16498800 d14950800 c15894000 d15555600 c14684400 d17370000 c15894000 d15555600 c15289200;2013 3 23 5 0 d 10 25 0 -3600 c"),
  ("Asia/Kabul", "16608 14400 16200;b-2524538208 c1735605408;"),
  ("Asia/Kamchatka", "38076 39600 43200 46800;b-1487759676 c240190476 d1602457200 c15807600 d15728400 c15807600 d15728400 c15807600 d15814800 c15732000 d15724800 c15724800 d15724800 c15724800 d15724800 c15724800 d15724800 c15724800 d15724800 c15724800 d15724800 c16329600 b31453200 c9676800 d6044400 c15724800 d15724800 c15724800 d15724800 c15724800 d15724800 c15724800 d16329600 c18144000 d13305600 c18144000 d13305600 c18144000 d13305600 c18748800 d12700800 c18748800 d12700800 c18748800 d13305600 c18144000 d13305600 c18144000 d13305600 c18748800 d12700800 c18748800 d12700800 c18748800 d12700800 c18748800 d13305600 c18144000 d13305600 c18144000 b32058000 c12700800;"),
  ("Asia/Karachi", "16092 19800 23400 18000 21600;b-1988166492 c1125529092 b98492400 d188010000 e1594254600 d15721200 e178419600 d13215600 e14259600 d17276400;"),
  ("Asia/Kathmandu", "20476 19800 20700;b-1577943676 c2082845476;"),
  ("Asia/Khandyga", "32533 28800 32400 36000 39600;b-1579424533 c331866133 d1602457200 c15807600 d15728400 c15807600 d15728400 c15807600 d15814800 c15732000 d15724800 c15724800 d15724800 c15724800 d15724800 c15724800 d15724800 c15724800 d15724800 c15724800 d15724800 c16329600 b31453200 c9676800 d6044400 c15724800 d15724800 c15724800 d15724800 c15724800 d15724800 c15724800 d16329600 c18144000 d13305600 c18144000 d13305600 c18144000 d13305600 c18748800 d12700800 c18748800 d12700800 c18748800 d13305600 c18144000 d13305600 c18144000 d5781600 e7520400 d18748800 e12700800 d18748800 e12700800 d18748800 e12700800 d18748800 e13305600 d18144000 e13305600 d18144000 e13305600 d18748800 e12700800 d14677200 c98420400;"),
  ("Asia/Kolkata", "21208 21200 19270 19800 23400;b-3645237208 c489542408 d1135989130 e1128124270 d19522800 e9421200 d98492400;"),
  ("Asia/Krasnoyarsk", "22286 21600 25200 28800;b-1577513486 c329962286 d1602457200 c15807600 d15728400 c15807600 d15728400 c15807600 d15814800 c15732000 d15724800 c15724800 d15724800 c15724800 d15724800 c15724800 d15724800 c15724800 d15724800 c15724800 d15724800 c16329600 b31453200 c9676800 d6044400 c15724800 d15724800 c15724800 d15724800 c15724800 d15724800 c15724800 d16329600 c18144000 d13305600 c18144000 d13305600 c18144000 d13305600 c18748800 d12700800 c18748800 d12700800 c18748800 d13305600 c18144000 d13305600 c18144000 d13305600 c18748800 d12700800 c18748800 d12700800 c18748800 d12700800 c18748800 d13305600 c18144000 d13305600 c18144000 d13305600 c18748800 d12700800 c113094000;"),
  ("Asia/Kuching", "26480 27000 28800 30000 32400;b-1383463280 c215826680 d85188600 c7861200 d23761200 c7861200 d23674800 c7861200 d23674800 c7861200 d23674800 c7861200 d23761200 c7861200 d23674800 c7861200 e5530800 c112662000;"),
  ("Asia/Macau", "27250 28800 32400 36000;b-2056692850 c1172183650 d11228400 c17362800 d14173200 c13215600 b63165600 c18316800 b13219200 c17366400 b19440000 c13305600 b15724800 c13219200 b18144000 c13305600 b18144000 c13305600 b18230400 c13824000 b18144000 c13305600 b18144000 c12096000 b19353600 c12096000 b19958400 c11491200 b19971000 c12099600 b19350000 c12099600 b19350000 c12099600 b19350000 c12099600 b19954800 c11494800 b19954800 c11494800 b19954800 c12099600 b19350000 c12099600 b19350000 c14518800 b15717600 c15732000 b15717600 c15732000 b16326000 c15728400 b15721200 c15728400 b15721200 c15728400 b15721200 c15728400 b15721200 c15728400 b16326000 c15728400 b15721200 c6051600 b25398000 c15728400 b15721200 c15728400 b15721200 c81046800 b13906800;"),
  ("Asia/Magadan", "36192 36000 39600 43200;b-1441188192 c193622592 d1602457200 c15807600 d15728400 c15807600 d15728400 c15807600 d15814800 c15732000 d15724800 c15724800 d15724800 c15724800 d15724800 c15724800 d15724800 c15724800 d15724800 c15724800 d15724800 c16329600 b31453200 c9676800 d6044400 c15724800 d15724800 c15724800 d15724800 c15724800 d15724800 c15724800 d16329600 c18144000 d13305600 c18144000 d13305600 c18144000 d13305600 c18748800 d12700800 c18748800 d12700800 c18748800 d13305600 c18144000 d13305600 c18144000 d13305600 c18748800 d12700800 c18748800 d12700800 c18748800 d12700800 c18748800 d13305600 c18144000 d13305600 c18144000 d13305600 c18748800 d12700800 b113094000 c47181600;"),
  ("Asia/Makassar", "28656 28800 32400;b-1172908656 c292636656 b114217200;"),
  ("Asia/Manila", "-57368 29032 28800 32400;b-3944621032 c1725537832 d1172404800 c6562800 d155091600 c124930800 d263869200 c4662000 d719888400 c15375600 d399517200 c5958000;"),
  ("Asia/Nicosia", "8008 7200 10800;b-1518920008 c1685492008 b15721200 c18666000 b12870000 c15037200 b15116400 c16333200 b15807600 c15642000 b15721200 c16333200 b15116400 c15728400 b15721200 c15728400 b15721200 c15728400 b15721200 c15728400 b16326000 c15728400 b15721200 c15728400 b15721200 c15728400 b15721200 c15728400 b15721200 c15728400 b15721200 c15728400 b16326000 c15728400 b15721200 c15728400 b15721200 c15728400 b15721200 c15728400 b15721200 c15728400 b15721200 c16333200 b15721200 c15728400 b15721200 c15728400 b18154800;1999 3 25 0 3600 c 10 25 0 3600 b"),
  ("Asia/Novokuznetsk", "20928 21600 25200 28800;b-1441259328 c193708128 d1602457200 c15807600 d15728400 c15807600 d15728400 c15807600 d15814800 c15732000 d15724800 c15724800 d15724800 c15724800 d15724800 c15724800 d15724800 c15724800 d15724800 c15724800 d15724800 c16329600 b31453200 c9676800 d6044400 c15724800 d15724800 c15724800 d15724800 c15724800 d15724800 c15724800 d16329600 c18144000 d13305600 c18144000 d13305600 c18144000 d13305600 c18748800 d12700800 c18748800 d12700800 c18748800 d13305600 c18144000 d13305600 c18144000 d13305600 c18748800 d12700800 c18748800 d12700800 c18748800 d12700800 c18748800 d13305600 c18144000 d13305600 c18144000 b32058000 c12700800;"),
  ("Asia/Novosibirsk", "19900 21600 25200 28800;b-1579476700 c331925500 d1602457200 c15807600 d15728400 c15807600 d15728400 c15807600 d15814800 c15732000 d15724800 c15724800 d15724800 c15724800 d15724800 c15724800 d15724800 c15724800 d15724800 c15724800 d15724800 c16329600 b31453200 c9676800 d6044400 c15724800 d15724800 c4827600 b10900800 c15724800 b15724800 c15724800 b15724800 c16329600 b18144000 c13305600 b18144000 c13305600 b18144000 c13305600 b18748800 c12700800 b18748800 c12700800 b18748800 c13305600 b18144000 c13305600 b18144000 c13305600 b18748800 c12700800 b18748800 c12700800 b18748800 c12700800 b18748800 c13305600 b18144000 c13305600 b18144000 c13305600 b18748800 c12700800 b113094000 c55040400;"),
  ("Asia/Omsk", "17610 18000 21600 25200;b-1582088010 c334540410 d1602457200 c15807600 d15728400 c15807600 d15728400 c15807600 d15814800 c15732000 d15724800 c15724800 d15724800 c15724800 d15724800 c15724800 d15724800 c15724800 d15724800 c15724800 d15724800 c16329600 b31453200 c9676800 d6044400 c15724800 d15724800 c15724800 d15724800 c15724800 d15724800 c15724800 d16329600 c18144000 d13305600 c18144000 d13305600 c18144000 d13305600 c18748800 d12700800 c18748800 d12700800 c18748800 d13305600 c18144000 d13305600 c18144000 d13305600 c18748800 d12700800 c18748800 d12700800 c18748800 d12700800 c18748800 d13305600 c18144000 d13305600 c18144000 d13305600 c18748800 d12700800 c113094000;"),
  ("Asia/Oral", "12324 10800 18000 21600 14400;b-1441164324 c193623924 d1602453600 c47343600 d15728400 c15807600 d15814800 c15732000 d15724800 c15724800 d15724800 c15724800 d15724800 c15724800 d15724800 c15724800 e31453200 c15724800 e16329600 c15724800 e15724800 c9676800 e21772800 c15724800 e15724800 c15724800 e15724800 c15724800 e15724800 c16329600 e18144000 c13305600 e18144000 c13305600 e18144000 c13305600 e18748800 c12700800 e18748800 c12700800 e18748800 c13305600 e18144000 c13305600 e18144000 c13305600;"),
  ("Asia/Pontianak", "26240 27000 32400 28800 25200;b-1172906240 c291685640 b115165800 d82171800 b63070200 d431397000 e757380600;"),
  ("Asia/Pyongyang", "30180 30600 32400;b-1948782180 c118367580 b3269979000 c85881600;"),
  ("Asia/Qatar", "12368 14400 10800;b-1577935568 c1654125968;"),
  ("Asia/Qostanay", "15268 14400 18000 21600;b-1441167268 c193623268 d1602457200 c47343600 d15728400 c15807600 d15814800 c15732000 d15724800 c15724800 d15724800 c15724800 d15724800 c15724800 d15724800 c15724800 d15724800 c15724800 d15724800 c16329600 b31453200 c9676800 d6044400 c15724800 d15724800 c15724800 d15724800 c15724800 d15724800 c15724800 d16329600 c18144000 d13305600 c18144000 d13305600 c18144000 d13305600 c18748800 d12700800 c18748800 d12700800 c18748800 d13305600 c18144000 d13305600 c18144000 d13305600 c628808400;"),
  ("Asia/Qyzylorda", "15712 14400 18000 21600;b-1441167712 c193623712 d1602457200 c47343600 d15728400 c15807600 d15814800 c15732000 d15724800 c15724800 d15724800 c15724800 d15724800 c15724800 d15724800 c15724800 d15724800 c15724800 d15724800 c16329600 d41126400 c21772800 d15724800 c15724800 d15724800 c15724800 d15724800 c15724800 d16329600 c18144000 d13305600 c18144000 d13305600 c18144000 d13305600 c18748800 d12700800 c18748800 d12700800 c18748800 d13305600 c18144000 d13305600 c18144000 d13305600 c464907600;"),
  ("Asia/Riyadh", "11212 10800;b-719636812;"),
  ("Asia/Sakhalin", "34248 32400 39600 43200 36000;b-2031039048 c1262478648 d1123452000 c15807600 d15728400 c15807600 d15728400 c15807600 d15814800 c15732000 d15724800 c15724800 d15724800 c15724800 d15724800 c15724800 d15724800 c15724800 d15724800 c15724800 d15724800 c16329600 e31453200 c9676800 d6044400 c15724800 d15724800 c15724800 d15724800 c15724800 d15724800 c15724800 d16329600 c18144000 e31453200 c13305600 e18144000 c13305600 e18748800 c12700800 e18748800 c12700800 e18748800 c13305600 e18144000 c13305600 e18144000 c13305600 e18748800 c12700800 e18748800 c12700800 e18748800 c12700800 e18748800 c13305600 e18144000 c13305600 e18144000 c13305600 e18748800 c12700800 e113094000 c44758800;"),
  ("Asia/Samarkand", "16073 14400 18000 21600;b-1441168073 c193624073 d1602457200 c47343600 d15728400 c15807600 d15814800 c15732000 d15724800 c15724800 d15724800 c15724800 d15724800 c15724800 d15724800 c15724800 d15724800 c15724800 d15724800 c16329600 d15724800 c15724800;"),
  ("Asia/Seoul", "30472 30600 32400 36000 34200;b-1948782472 c118367872 d1149204600 c8982000 d17456400 c13906800 d17456400 c13993200 d20566800 c10882800 b79837200 e35425800 b10969200 e21949200 b11487600 e18752400 b12092400 e19357200 b12092400 e19357200 b12092400 e19357200 b12092400 c28170000 d812511000 c13305600 d18144000 c13305600;"),
  ("Asia/Shanghai", "29143 28800 32400;b-2177481943 c576806743 b14770800 c652237200 b11574000 c13222800 b20041200 c7779600 b113180400 c22035600 b12006000 c16938000 b17276400 c15728400 b13215600 c18320400 b2329200 c1165546800 b11487600 c18147600 b13302000 c18752400 b12697200 c18752400 b13302000 c18147600 b13302000 c18147600 b13302000;"),
  ("Asia/Singapore", "24925 25200 26400 27000 32400 28800;b-2038200925 c870566125 d273454800 e14514600 d112660200 f1145667600;"),
  ("Asia/Srednekolymsk", "36892 36000 39600 43200;b-1441188892 c193623292 d1602457200 c15807600 d15728400 c15807600 d15728400 c15807600 d15814800 c15732000 d15724800 c15724800 d15724800 c15724800 d15724800 c15724800 d15724800 c15724800 d15724800 c15724800 d15724800 c16329600 b31453200 c9676800 d6044400 c15724800 d15724800 c15724800 d15724800 c15724800 d15724800 c15724800 d16329600 c18144000 d13305600 c18144000 d13305600 c18144000 d13305600 c18748800 d12700800 c18748800 d12700800 c18748800 d13305600 c18144000 d13305600 c18144000 d13305600 c18748800 d12700800 c18748800 d12700800 c18748800 d12700800 c18748800 d13305600 c18144000 d13305600 c18144000 d13305600 c18748800 d12700800 c113094000;"),
  ("Asia/Taipei", "29160 28800 32400;b-2335248360 c1317427560 b251596800 c20390400 b12006000 c16938000 b17276400 c15728400 b13215600 c18320400 b13215600 c18320400 b13215600 c18320400 b13215600 c13136400 b21164400 c13050000 b18486000 c13050000 b18486000 c13050000 b15807600 c15814800 b15807600 c15728400 b15807600 c15728400 b15807600 c15728400 b15807600 c21085200 b10537200 c20998800 b10537200 c394419600 b15807600 c15728400 b15807600 c118285200 b7945200;"),
  ("Asia/Tashkent", "16631 18000 21600 25200;b-1441168631 c193621031 d1602457200 c15807600 d15728400 c15807600 d15728400 c15807600 d15814800 c15732000 d15724800 c15724800 d15724800 c15724800 d15724800 c15724800 d15724800 c15724800 d15724800 c15724800 d15724800 c16329600 b31453200;"),
  ("Asia/Tbilisi", "10751 10800 14400 18000;b-1441162751 c1036022351 d760057200 c15807600 d15728400 c15807600 d15728400 c15807600 d15814800 c15732000 d15724800 c15724800 d15724800 c15724800 d15724800 c15724800 d15724800 c15724800 d15724800 c15724800 d15724800 c16329600 b31453200 c15717600 b15721200 c15728400 b15721200 c15728400 d31446000 c15721200 d16333200 c49590000 d13309200 c18140400 d13309200 c18745200 d12704400 c18745200 d12704400 c18745200 d13309200 c18140400 d13309200 c18140400 d13309200 c7858800 b10900800 c12700800;"),
  ("Asia/Tehran", "12344 12600 16200 14400 18000;b-1090466744 c1318287344 d18403200 e13393800 d11491200 b8467200 c17022600 b9932400 c15901200 b16066800 c334717200 b12265200 c15728400 b15894000 c15642000 b15894000 c15642000 b15894000 c15642000 b15894000 c15642000 b15894000 c15728400 b15894000 c15642000 b15894000 c15642000 b15894000 c15642000 b15894000 c15728400 b15894000 c15642000 b15894000 c15642000 b15894000 c15642000 b15894000 c15728400 b15894000 c78714000 b15894000 c15728400 b15894000 c15642000 b15894000 c15642000 b15894000 c15642000 b15894000 c15728400 b15894000 c15642000 b15894000 c15642000 b15894000 c15642000 b15894000 c15728400 b15894000 c15642000 b15894000 c15642000 b15894000 c15642000 b15894000 c15728400 b15894000 c15642000 b15894000;"),
  ("Asia/Thimphu", "21516 19800 21600;b-706341516 c1266366516;"),
  ("Asia/Tokyo", "33539 32400 36000;b-2587712400 c1903910400 b11491200 c17539200 b13910400 c20563200 b10886400 c20563200 b10886400;"),
  ("Asia/Tomsk", "20391 21600 25200 28800;b-1578807591 c331256391 d1602457200 c15807600 d15728400 c15807600 d15728400 c15807600 d15814800 c15732000 d15724800 c15724800 d15724800 c15724800 d15724800 c15724800 d15724800 c15724800 d15724800 c15724800 d15724800 c16329600 b31453200 c9676800 d6044400 c15724800 d15724800 c15724800 d15724800 c15724800 d15724800 c15724800 d16329600 c18144000 d13305600 c18144000 d13305600 c18144000 d13305600 c18748800 d12700800 c18748800 d12700800 c18748800 d13305600 c2678400 b15469200 c13305600 b18144000 c13305600 b18748800 c12700800 b18748800 c12700800 b18748800 c12700800 b18748800 c13305600 b18144000 c13305600 b18144000 c13305600 b18748800 c12700800 b113094000 c50202000;"),
  ("Asia/Ulaanbaatar", "25652 25200 28800 32400;b-2032931252 c2285366852 d165538800 c15807600 d15814800 c15721200 d15728400 c15721200 d15728400 c15721200 d15728400 c15721200 d15728400 c15721200 d15728400 c15721200 d15728400 c16326000 d15728400 c15721200 d15728400 c15721200 d15728400 c15721200 d15728400 c15721200 d15728400 c15721200 d16333200 c15721200 d15728400 c15721200 d15728400 c15721200 d81572400 c13302000 d15728400 c15721200 d15728400 c15721200 d15728400 c15721200 d15728400 c15721200 d15728400 c16326000 d267930000 c15714000 d15735600 c15714000;"),
  ("Asia/Urumqi", "21020 21600;b-1325483420;"),
  ("Asia/Ust-Nera", "34374 28800 32400 43200 39600 36000;b-1579426374 c331867974 d1602457200 e15800400 d15728400 e15807600 d15728400 e15807600 d15814800 e15732000 d15724800 e15724800 d15724800 e15724800 d15724800 e15724800 d15724800 e15724800 d15724800 e15724800 d15724800 e16329600 f31453200 e9676800 d6044400 e15724800 d15724800 e15724800 d15724800 e15724800 d15724800 e15724800 d16329600 e18144000 d13305600 e18144000 d13305600 e18144000 d13305600 e18748800 d12700800 e18748800 d12700800 e18748800 d13305600 e18144000 d13305600 e18144000 d13305600 e18748800 d12700800 e18748800 d12700800 e18748800 d12700800 e18748800 d13305600 e18144000 d13305600 e18144000 d13305600 e18748800 d12700800 e14677200 f98420400;"),
  ("Asia/Vladivostok", "31651 32400 36000 39600;b-1487321251 c239759251 d1602457200 c15807600 d15728400 c15807600 d15728400 c15807600 d15814800 c15732000 d15724800 c15724800 d15724800 c15724800 d15724800 c15724800 d15724800 c15724800 d15724800 c15724800 d15724800 c16329600 b31453200 c9676800 d6044400 c15724800 d15724800 c15724800 d15724800 c15724800 d15724800 c15724800 d16329600 c18144000 d13305600 c18144000 d13305600 c18144000 d13305600 c18748800 d12700800 c18748800 d12700800 c18748800 d13305600 c18144000 d13305600 c18144000 d13305600 c18748800 d12700800 c18748800 d12700800 c18748800 d12700800 c18748800 d13305600 c18144000 d13305600 c18144000 d13305600 c18748800 d12700800 c113094000;"),
  ("Asia/Yakutsk", "31138 28800 32400 36000;b-1579423138 c331864738 d1602457200 c15807600 d15728400 c15807600 d15728400 c15807600 d15814800 c15732000 d15724800 c15724800 d15724800 c15724800 d15724800 c15724800 d15724800 c15724800 d15724800 c15724800 d15724800 c16329600 b31453200 c9676800 d6044400 c15724800 d15724800 c15724800 d15724800 c15724800 d15724800 c15724800 d16329600 c18144000 d13305600 c18144000 d13305600 c18144000 d13305600 c18748800 d12700800 c18748800 d12700800 c18748800 d13305600 c18144000 d13305600 c18144000 d13305600 c18748800 d12700800 c18748800 d12700800 c18748800 d12700800 c18748800 d13305600 c18144000 d13305600 c18144000 d13305600 c18748800 d12700800 c113094000;"),
  ("Asia/Yangon", "23087 23400 32400;b-1577946287 c704678087 b94858200;"),
  ("Asia/Yekaterinburg", "14553 13505 14400 18000 21600;b-1688270553 c95660248 d345066305 e1602457200 d15807600 e15728400 d15807600 e15728400 d15807600 e15814800 d15732000 e15724800 d15724800 e15724800 d15724800 e15724800 d15724800 e15724800 d15724800 e15724800 d15724800 e15724800 d16329600 c31453200 d9676800 e6044400 d15724800 e15724800 d15724800 e15724800 d15724800 e15724800 d15724800 e16329600 d18144000 e13305600 d18144000 e13305600 d18144000 e13305600 d18748800 e12700800 d18748800 e12700800 d18748800 e13305600 d18144000 e13305600 d18144000 e13305600 d18748800 e12700800 d18748800 e12700800 d18748800 e12700800 d18748800 e13305600 d18144000 e13305600 d18144000 e13305600 d18748800 e12700800 d113094000;"),
  ("Asia/Yerevan", "10680 10800 14400 18000;b-1441162680 c1036022280 d760057200 c15807600 d15728400 c15807600 d15728400 c15807600 d15814800 c15732000 d15724800 c15724800 d15724800 c15724800 d15724800 c15724800 d15724800 c15724800 d15724800 c15724800 d15724800 c16329600 b31453200 c15724800 b15724800 c15724800 b15724800 c15724800 b15724800 c15724800 d63500400 c18144000 d13305600 c18144000 d13305600 c18748800 d12700800 c18748800 d12700800 c18748800 d13305600 c18144000 d13305600 c18144000 d13305600 c18748800 d12700800 c18748800 d12700800 c18748800 d12700800 c18748800 d13305600 c18144000 d13305600 c18144000 d13305600 c18748800 d12700800 c18748800;")]

def atlantic : List (String × String) := [
  ("Atlantic/Azores", "-6160 -6872 -7200 -3600 0 3600;b-2713904240 c883527440 d140828400 c11754000 d10368000 c19695600 d11840400 c19695600 d11840400 c19695600 d11926800 c19695600 d11840400 c19695600 d79056000 c14774400 d48384000 c14515200 d16329600 c15120000 d16934400 c15120000 d16934400 c14515200 d48384000 c14515200 d15724800 c15724800 d47779200 c15724800 d15120000 c16329600 d16934400 c14515200 d15724800 c15724800 d15120000 c16329600 d16934400 c18748800 d8467200 c19526400 d15552000 c15811200 d13824000 e3625200 d9676800 c6051600 d12096000 e3020400 d11491200 c5446800 d11491200 e3625200 d10886400 c5446800 d11491200 e3625200 d10886400 c5446800 d13910400 c15724800 d15735600 c15724800 d15724800 c15724800 d15724800 c15724800 d15724800 c15724800 d15724800 c16329600 d15724800 c15724800 d15724800 c15724800 d15724800 c15724800 d15724800 c15724800 d15724800 c16329600 d15724800 c15724800 d15724800 c15724800 d15724800 c15724800 d15724800 c15724800 d15724800 c15724800 d15724800 c16329600 d15724800 c15724800 d15724800 c15724800 d15724800 c15724800 d15724800 e504392400 d15724800 e15724800 d15724800 e15724800 d16329600 e15724800 d15724800 e15724800 d15724800 e15724800 d15724800 e15724800 d15724800 e15724800 d15724800 e15724800 d16329600 e15724800 d15724800 e15724800 d15724800 e7866000 f7858800 e6998400 d8726400 e15724800 d15724800 e15724800 d15724800;1996 3 25 0 3600 e 10 25 0 3600 d"),
  ("Atlantic/Bermuda", "-15558 -11958 -14400 -10800;b-1664307642 a15375600 b16851600 a13388400 c356410800 d379554042 c24188400 d13309200 c19350000 d11494800 c20559600 d10890000 c20559600 d48387600 c10278000 d21776400 c9068400 d22381200 c9068400 d22986000 c8463600 d22986000 c8463600 d22986000 c9068400 d117334800 c13302000 d552186000 c15721200 d15728400 c15721200 d15728400 c16326000 d15123600 c16326000 d15728400 c15721200 d15728400 c15721200 d15728400 c15721200 d15728400 c15721200 d15728400 c16326000 d15123600 c16326000 d15728400 c15721200 d15728400 c15721200 d15728400 c15721200 d13914000 c17535600 d13914000 c18140400 d13309200 c18140400 d13309200 c18140400 d13914000 c17535600 d13914000 c17535600 d13914000 c18140400 d13309200 c18140400 d13309200 c18140400 d13914000 c17535600 d13914000 c17535600 d13914000 c17535600 d13914000 c18140400 d13309200 c18140400 d13309200 c18140400 d13914000 c17535600 d13914000 c17535600 d13914000 c18140400 d13309200 c18140400 d13309200 c18140400;2007 3 8 0 21600 d 11 1 0 18000 c"),
  ("Atlantic/Canary", "-3696 -3600 0 3600;b-1509663504 c775789104 d1057701600 c15123600 d15724800 c15724800 d15724800 c15724800 d15724800 c15724800 d15724800 c16329600 d15724800 c15724800 d15724800 c15724800 d15724800 c15724800 d15724800 c15724800 d15724800 c15724800 d15724800 c16329600 d15724800 c15724800 d15724800 c15724800 d15724800 c15724800 d15724800 c15724800 d15724800 c15724800;1996 3 25 0 3600 d 10 25 0 3600 c"),
  ("Atlantic/Cape_Verde", "-5644 -7200 -3600;b-1830376800 c967766400 b98492400 c950238000;"),
  ("Atlantic/Faroe", "-1624 0 3600;b-1955748776 c2310424376 b15724800 c15724800 b15724800 c15724800 b15724800 c15724800 b16329600 c15724800 b15724800 c15724800 b15724800 c15724800 b15724800 c15724800 b15724800 c15724800 b15724800 c15724800 b16329600 c15724800 b15724800 c15724800 b15724800 c15724800 b15724800 c15724800 b15724800 c15724800 b15724800;1996 3 25 0 3600 c 10 25 0 3600 b"),
  ("Atlantic/Madeira", "-4056 -3600 0 3600;b-1830380400 c140828400 b11754000 c10368000 b19695600 c11840400 b19695600 c11840400 b19695600 c11926800 b19695600 c11840400 b19695600 c79056000 b14774400 c48384000 b14515200 c16329600 b15120000 c16934400 b15120000 c16934400 b14515200 c48384000 b14515200 c15724800 b15724800 c47779200 b15724800 c15120000 b16329600 c16934400 b14515200 c15724800 b15724800 c15120000 b16329600 c16934400 b18748800 c8467200 b19526400 c15552000 b15811200 c13824000 d3625200 c9676800 b6051600 c12096000 d3020400 c11491200 b5446800 c11491200 d3625200 c10886400 b5446800 c11491200 d3625200 c10886400 b5446800 c13910400 b15724800 c15735600 b15724800 c15724800 b15724800 c15724800 b15724800 c15724800 b15724800 c15724800 b16329600 c15724800 b15724800 c15724800 b15724800 c15724800 b15724800 c15724800 b15724800 c15724800 b16329600 c15724800 b15724800 c15724800 b15724800 c15724800 b15724800 c15724800 b15724800 c15724800 b15724800 c15724800 b16329600 c15724800 b15724800 c15724800 b15724800 c15724800 b15724800 c15724800 d504997200 c15120000 d15724800 c15724800 d15724800 c16329600 d15724800 c15724800 d15724800 c15728400 d15724800 c15724800 d15724800 c15724800 d15724800 c15724800 d15724800 c16329600 d15724800 c15724800 d15724800 c15724800 d15724800 c15724800 d15724800 c15724800 d15724800 c15724800;1996 3 25 0 3600 d 10 25 0 3600 c"),
  ("Atlantic/South_Georgia", "-8768 -7200;b-2524512832;"),
  ("Atlantic/Stanley", "-13884 -14400 -10800 -7200;b-1824235716 c806026116 b15116400 c16333200 b15116400 c16938000 b15116400 c16333200 b15116400 c16333200 b15116400 c16333200 b8290800 c1272675600 d12697200 c18745200 d12099600 c19350000 b30848400 c12704400 b18745200 c12704400 b18745200 c12704400 b18745200 c12704400 b19350000 c12099600 b19350000 c12704400 b18745200 c12704400 b18745200 c12704400 b18745200 c12704400 b18745200 c12704400 b19350000 c12704400 b18745200 c12704400 b18745200 c12704400 b18745200 c12704400 b18745200 c12704400 b18752400 c12099600 b19954800 c11494800 b19954800 c12099600 b19350000 c12099600 b19350000 c12099600 b19350000 c12099600 b19350000 c12099600 b19954800 c12099600 b19350000 c12099600 b19350000 c12099600;")]

def australia : List (String × String) := [
  ("Australia/Adelaide", "33260 32400 34200 37800;b-2364110060 c133920860 d557631000 c7171200 d781747200 c7516800 d15724800 c15724800 d16329600 c15120000 d870912000 c10281600 d21168000 c10886400 d20563200 c10886400 d20563200 c10886400 d20563200 c11491200 d20563200 c10886400 d20563200 c10886400 d20563200 c10886400 d20563200 c10886400 d20563200 c10886400 d20563200 c11491200 d20563200 c10886400 d20563200 c10886400 d20563200 c10886400 d20563200 c12096000 d18748800 c12700800 d19353600 c12700800 d19353600 c12096000 d19353600 c12096000 d19353600 c10886400 d20563200 c12700800 d18748800 c11491200 d20563200 c12096000 d19353600 c12700800 d18748800 c13305600 d18144000 c13305600 d18144000 c13305600 d18144000 c13305600 d18748800 c12700800 d18748800 c12700800 d18748800 c13305600 d18144000 c13305600 d18144000 c13305600 d18748800 c12700800 d18748800 c13305600 d18144000 c12700800 d18748800;2008 4 1 0 -27000 c 10 1 0 -27000 d"),
  ("Australia/Brisbane", "36728 36000 39600;b-2366791928 c694231928 b7171200 c781747200 b7516800 c15724800 b15724800 c16329600 b15120000 c870912000 b10281600 c557625600 b10886400 c20563200 b10886400 c20563200 b10886400;"),
  ("Australia/Broken_Hill", "33948 36000 32400 34200 37800;b-2364110748 c49159548 d84762000 e557631000 d7171200 e781747200 d7516800 e15724800 d15724800 e16329600 d15120000 e870912000 d10281600 e21168000 d10886400 e20563200 d10886400 e20563200 d10886400 e20563200 d11491200 e20563200 d10886400 e20563200 d10886400 e20563200 d10886400 e20563200 d10886400 e20563200 d10886400 e20563200 d13910400 e18144000 d10886400 e20563200 d10886400 e20563200 d10886400 e20563200 d12096000 e18748800 d12700800 e19353600 d12700800 e19353600 d12096000 e19353600 d10886400 e20563200 d10886400 e20563200 d10886400 e20563200 d11491200 e20563200 d10886400 e20563200 d10886400 e20563200 d13305600 e18144000 d13305600 e18144000 d13305600 e18144000 d13305600 e18748800 d12700800 e18748800 d12700800 e18748800 d13305600 e18144000 d13305600 e18144000 d13305600 e18748800 d12700800 e18748800 d13305600 e18144000 d12700800 e18748800;2008 4 1 0 -27000 d 10 1 0 -27000 e"),
  ("Australia/Darwin", "31400 32400 34200 37800;b-2364108200 c133919000 d557631000 c7171200 d781747200 c7516800 d15724800 c15724800 d16329600 c15120000;"),
  ("Australia/Eucla", "30928 31500 35100;b-2337928528 c665373028 b7171200 c781747200 b7516800 c15724800 b15724800 c996710400 b10886400 c273369600 b10886400 c243129600 b9072000 c465696000 b9676800 c18748800 b13305600 c18144000 b13305600;"),
  ("Australia/Hobart", "35356 36000 39600;b-2345795356 c665286556 b15120000 c18748800 b10886400 c20563200 b10886400 c720662400 b7516800 c15724800 b15724800 c16329600 b15120000 c742089600 b15724800 c18144000 b11491200 c19958400 b11491200 c19958400 b12096000 c19958400 b10281600 c21168000 b10886400 c20563200 b10886400 c20563200 b10886400 c20563200 b11491200 c20563200 b10886400 c20563200 b10886400 c20563200 b10886400 c20563200 b10886400 c20563200 b10886400 c20563200 b13305600 c18748800 b12700800 c18748800 b10886400 c20563200 b10886400 c20563200 b10886400 c19958400 b12700800 c19353600 b12700800 c19353600 b12096000 c19353600 b12096000 c19353600 b13305600 c16329600 b15120000 c16329600 b15120000 c16329600 b15120000 c16329600 b15120000 c16329600 b15724800 c16329600 b15120000 c16329600 b15120000 c16329600 b15120000 c16329600 b15120000 c13305600 b18144000 c16934400 b15120000 c16329600 b15120000 c16329600 b15120000 c16329600 b15120000 c16329600 b15724800 c15724800 b15120000 c16934400;2008 4 1 0 -28800 b 10 1 0 -28800 c"),
  ("Australia/Lindeman", "35756 36000 39600;b-2366790956 c694230956 b7171200 c781747200 b7516800 c15724800 b15724800 c16329600 b15120000 c870912000 b10281600 c557625600 b10886400 c20563200 b10886400 c20563200 b10886400 c20563200 b11491200 c20563200 b10886400;"),
  ("Australia/Lord_Howe", "38180 36000 37800 41400 39600;b-2364114980 c2716331780 d20568600 c11487600 d20566800 c10882800 d20566800 c10882800 d20566800 c10882800 e20566800 c12094200 e18750600 c12699000 e19355400 c12699000 e19355400 c12094200 e19355400 c10884600 e20565000 c10884600 e20565000 c10884600 e20565000 c11489400 e20565000 c10884600 e20565000 c10884600 e20565000 c13303800 e18145800 c13303800 e18145800 c13303800 e18145800 c13303800 e18750600 c12699000 e13307400 c18142200 e18750600 c13303800 e18145800 c13303800 e18145800 c13303800 e18750600 c12699000 e18750600 c13303800 e18145800 c12699000 e18750600;2008 4 1 0 -32400 c 10 1 0 -30600 e"),
  ("Australia/Melbourne", "34792 36000 39600;b-2364111592 c691551592 b7171200 c781747200 b7516800 c15724800 b15724800 c16329600 b15120000 c870912000 b10281600 c21168000 b10886400 c20563200 b10886400 c20563200 b10886400 c20563200 b11491200 c20563200 b10886400 c20563200 b10886400 c20563200 b10886400 c20563200 b10886400 c20563200 b10886400 c20563200 b11491200 c20563200 b10886400 c20563200 b10886400 c20563200 b10886400 c20563200 b12096000 c18748800 b12700800 c18748800 b13305600 c19353600 b12096000 c19353600 b12096000 c19353600 b10886400 c20563200 b10886400 c20563200 b11491200 c20563200 b10886400 c20563200 b12700800 c18748800 b13305600 c18144000 b13305600 c18144000 b13305600 c18144000 b13305600 c18748800 b12700800 c13305600 b18144000 c18748800 b13305600 c18144000 b13305600 c18144000 b13305600 c18748800 b12700800 c18748800 b13305600 c18144000 b12700800 c18748800;2008 4 1 0 -28800 b 10 1 0 -28800 c"),
  ("Australia/Perth", "27804 28800 32400;b-2337925404 c665372604 b7171200 c781747200 b7516800 c15724800 b15724800 c996710400 b10886400 c273369600 b10886400 c243129600 b9072000 c465696000 b9676800 c18748800 b13305600 c18144000 b13305600;"),
  ("Australia/Sydney", "36292 36000 39600;b-2364113092 c691553092 b7171200 c781747200 b7516800 c15724800 b15724800 c16329600 b15120000 c870912000 b10281600 c21168000 b10886400 c20563200 b10886400 c20563200 b10886400 c20563200 b11491200 c20563200 b10886400 c20563200 b10886400 c20563200 b10886400 c20563200 b10886400 c20563200 b10886400 c20563200 b13910400 c18144000 b10886400 c20563200 b10886400 c20563200 b10886400 c20563200 b12096000 c18748800 b12700800 c19353600 b12700800 c19353600 b12096000 c19353600 b10886400 c20563200 b10886400 c20563200 b10886400 c20563200 b11491200 c20563200 b10886400 c20563200 b10886400 c20563200 b13305600 c18144000 b13305600 c18144000 b13305600 c18144000 b13305600 c18748800 b12700800 c13305600 b18144000 c18748800 b13305600 c18144000 b13305600 c18144000 b13305600 c18748800 b12700800 c18748800 b13305600 c18144000 b12700800 c18748800;2008 4 1 0 -28800 b 10 1 0 -28800 c")]

def etc : List (String × String) := [
  ("Etc/GMT", "0;;"),
  ("Etc/GMT+1", "-3600;;"),
  ("Etc/GMT+10", "-36000;;"),
  ("Etc/GMT+11", "-39600;;"),
  ("Etc/GMT+12", "-43200;;"),
  ("Etc/GMT+2", "-7200;;"),
  ("Etc/GMT+3", "-10800;;"),
  ("Etc/GMT+4", "-14400;;"),
  ("Etc/GMT+5", "-18000;;"),
  ("Etc/GMT+6", "-21600;;"),
  ("Etc/GMT+7", "-25200;;"),
  ("Etc/GMT+8", "-28800;;"),
  ("Etc/GMT+9", "-32400;;"),
  ("Etc/GMT-1", "3600;;"),
  ("Etc/GMT-10", "36000;;"),
  ("Etc/GMT-11", "39600;;"),
  ("Etc/GMT-12", "43200;;"),
  ("Etc/GMT-13", "46800;;"),
  ("Etc/GMT-14", "50400;;"),
  ("Etc/GMT-2", "7200;;"),
  ("Etc/GMT-3", "10800;;"),
  ("Etc/GMT-4", "14400;;"),
  ("Etc/GMT-5", "18000;;"),
  ("Etc/GMT-6", "21600;;"),
  ("Etc/GMT-7", "25200;;"),
  ("Etc/GMT-8", "28800;;"),
  ("Etc/GMT-9", "32400;;"),
  ("Etc/UTC", "0;;")]

def europe : List (String × String) := [
  ("Europe/Andorra", "364 0 3600 7200;b-2177453164 c1443571564 d1214960400 c15724800 d15724800 c15724800 d15724800 c15724800 d15724800 c15724800 d15724800 c15724800 d15724800 c16329600 d15724800 c15724800 d15724800 c15724800 d15724800 c15724800 d15724800 c15724800 d15724800 c15724800;1996 3 25 0 3600 d 10 25 0 3600 c"),
  ("Europe/Astrakhan", "11532 10800 14400 18000;b-1441249932 c193709532 d1602457200 c15807600 d15728400 c15807600 d15728400 c15807600 d15814800 c15732000 d15724800 c15724800 d15724800 c15724800 d15724800 c15724800 d15724800 c15724800 b31453200 c15724800 b16329600 c15724800 b47174400 c15724800 b15724800 c15724800 b15724800 c15724800 b15724800 c16329600 b18144000 c13305600 b18144000 c13305600 b18144000 c13305600 b18748800 c12700800 b18748800 c12700800 b18748800 c13305600 b18144000 c13305600 b18144000 c13305600 b18748800 c12700800 b18748800 c12700800 b18748800 c12700800 b18748800 c13305600 b18144000 c13305600 b18144000 c13305600 b18748800 c12700800 b113094000 c44758800;"),
  ("Europe/Athens", "5692 7200 10800 3600;b-1686101632 c503105632 b4834800 c271299600 b1983600 d47620800 b12780000 d16239600 b15814800 c260060400 b10710000 c708138000 b19699200 c11844000 b15724800 c15120000 b15206400 c16243200 b15123600 c16351200 b15609600 c15980400 b15548400 c15739200 b15724800 c15724800 b15724800 c15724800 b15724800 c15724800 b16329600 c15724800 b15724800 c15724800 b15724800 c15724800 b15724800 c15724800 b15724800 c15724800 b15724800 c15724800 b16329600 c15724800 b15724800 c15724800 b15724800 c15724800 b15724800 c15724800 b15724800 c15724800 b15724800;1996 3 25 0 3600 c 10 25 0 3600 b"),
  ("Europe/Belgrade", "4920 3600 7200;b-2713915320 c1808090520 b48567600 c12700800 b16329600 c15724800 b15724800 c18835200 b11318400 c1184198400 b15724800 c15724800 b16329600 c15724800 b15724800 c15724800 b15724800 c15724800 b15724800 c15724800 b15724800 c15724800 b15724800 c15724800 b16329600 c15724800 b15724800 c15724800 b15724800 c15724800 b15724800 c15724800 b15724800 c15724800 b15724800;1996 3 25 0 3600 c 10 25 0 3600 b"),
  ("Europe/Berlin", "3208 3600 7200 10800;b-2422054408 c728348008 b13222800 c17028000 b13305600 c18144000 b13305600 c679795200 b81648000 c12700800 b16329600 c15724800 b15724800 c15724800 d4489200 c10627200 b4755600 c12700800 b15206400 c15642000 d3020400 c4230000 b8470800 c16934400 b14515200 c16329600 b15120000 c962841600 b15120000 c15724800 b15724800 c15724800 b15724800 c15724800 b15724800 c15724800 b16329600 c15724800 b15724800 c15724800 b15724800 c15724800 b15724800 c15724800 b15724800 c15724800 b15724800 c15724800 b16329600 c15724800 b15724800 c15724800 b15724800 c15724800 b15724800 c15724800 b15724800 c15724800 b15724800;1996 3 25 0 3600 c 10 25 0 3600 b"),
  ("Europe/Brussels", "1050 0 3600 7200;b-2450995200 c710640000 d46652400 c13219200 d17028000 c13305600 d18144000 c13305600 b4874400 c9547200 b18748800 c11491200 b21772800 c12268800 b19440000 c13046400 b16934400 c16934400 b14515200 c15120000 b16329600 c15724800 b15724800 c16934400 b14515200 c16329600 b15120000 c16934400 b15130800 c16934400 b14515200 c16329600 b15120000 c16934400 b14515200 c15724800 b15724800 c15120000 b16934400 c15724800 b15724800 c15120000 b16329600 c16934400 b14515200 c15724800 b15724800 c15120000 b16329600 c16934400 b18748800 c8467200 d7344000 c77410800 d12700800 c16329600 d15724800 c14428800 d17020800 c14428800 d21168000 c12182400 d962150400 c15120000 d16329600 c15724800 d15724800 c15724800 d16329600 c15120000 d15724800 c15724800 d15724800 c15724800 d15724800 c15724800 d15724800 c16329600 d15724800 c15724800 d15724800 c15724800 d15724800 c15724800 d15724800 c15724800 d15724800 c15724800 d15724800 c16329600 d15724800 c15724800 d15724800 c15724800 d15724800 c15724800 d15724800 c15724800 d15724800 c15724800;1996 3 25 0 3600 d 10 25 0 3600 c"),
  ("Europe/Bucharest", "6264 7200 10800;b-1213148664 c26091864 b11577600 c15724800 b15724800 c16329600 b15724800 c15724800 b15724800 c15724800 b15724800 c15724800 b15724800 c15724800 b15724800 c15724800 b15724800 c1251331200 b10882800 c16329600 b15123600 c15732000 b15724800 c15724800 b15724800 c15724800 b15724800 c15724800 b16329600 c15724800 b15724800 c15724800 b15724800 c15724800 b15724800 c15724800 b15724800 c15724800 b15724800 c15724800 b16329600 c15717600 b15724800 c15724800 b15724800 c15724800 b15724800 c15724800 b15721200 c15728400 b15721200 c16333200 b18140400;1997 3 25 0 3600 c 10 25 0 3600 b"),
  ("Europe/Budapest", "4580 3600 7200;b-2498260580 c804554180 b13222800 c17028000 b13305600 c18144000 b13305600 c18230400 b13219200 c17539200 b14515200 c648421200 b49518000 c12700800 b16329600 c15724800 b15724800 c18306000 b15814800 c12967200 b16412400 c15642000 b15724800 c15724800 b15724800 c16329600 b15120000 c146354400 b11487600 c19969200 b11491200 c21168000 b10281600 c21168000 b10281600 c710632800 b15120000 c15724800 b15724800 c15724800 b15724800 c15724800 b15724800 c15732000 b16329600 c15724800 b15724800 c15724800 b15724800 c15724800 b15724800 c15724800 b15724800 c15724800 b15724800 c15724800 b16329600 c15724800 b15724800 c15724800 b15724800 c15724800 b15724800 c15724800 b15724800 c15724800 b15724800;1996 3 25 0 3600 c 10 25 0 3600 b"),
  ("Europe/Chisinau", "6920 6900 6264 7200 10800 3600 14400;b-2840147720 c1203033620 d423965436 e26091864 d11577600 e15724800 d15724800 e16329600 d15724800 e15724800 d15724800 e15724800 d15724800 e15724800 d15724800 e15724800 d15724800 e15724800 d15724800 e27561600 d29026800 f40881600 d12700800 f16329600 d15724800 e12344400 g1155078000 e15807600 g15728400 e15807600 g15728400 e15807600 g15814800 e15732000 g15724800 e15724800 g15724800 e15724800 g15724800 e15724800 g15724800 e15724800 g15724800 e15724800 g15724800 e3625200 d12708000 e15724800 d15724800 e15717600 d15721200 e15728400 d15721200 e15728400 d15721200 e15728400 d15721200 e16333200 d18140400;1997 3 25 0 0 e 10 25 0 0 d"),
  ("Europe/Dublin", "-1521 2079 0 3600;b-1691962479 c11491200 d16328079 c13996800 d16243200 c16416000 d15638400 c15811200 d15638400 c18230400 d13824000 c15811200 d15033600 c16934400 d16934400 c12700800 d18144000 c13910400 d18144000 c14515200 d16934400 c14515200 d16329600 c15120000 d17539200 c14515200 d16934400 c14515200 d16329600 c15120000 d16934400 c14515200 d16934400 c14515200 d16329600 c15724800 d16934400 c14515200 d16329600 c15120000 d16934400 c14515200 d16934400 c14515200 d16329600 c15120000 d16934400 c18748800 d8467200 c208656000 d13910400 c19958400 d14515200 c16934400 d13305600 c18144000 d14515200 c16329600 d15120000 c16329600 d15724800 c16329600 d15120000 c14515200 d16329600 c15120000 d16934400 c14515200 d17539200 c14515200 d16329600 c15120000 d16934400 c14515200 d16934400 c14515200 d16329600 c15120000 d15120000 c18748800 d12700800 c18748800 d13305600 c18144000 d12700800 c18748800 d12700800 c18748800 d12700800 c18748800 d12700800 c19353600 d9676800 c116726400 d12096000 c19353600 d12096000 c19353600 d12096000 c19353600 d12096000 c19353600 d12700800 c18748800 d12700800 c18748800 d12700800 c19353600 d12096000 c19353600 d12096000 c19353600 d13302000 c18144000 d13305600 c18144000 d13305600 c18144000 d13305600 c18748800 d13305600 c18144000 d13305600 c18144000 d13305600 c18144000 d13305600 c18144000 d13305600 c18748800 d12700800 c18748800 d13305600 c18144000 d13305600 c18144000 d13305600 c18144000 d13305600 c18144000 d13305600 c18144000;1996 3 25 0 3600 d 10 25 0 3600 c"),
  ("Europe/Gibraltar", "-1284 0 3600 7200;b-2821649916 c1129685916 b11491200 c16329600 b13996800 c16243200 b16416000 c15638400 b15811200 c15638400 b18230400 c13824000 b15811200 c15033600 b16934400 c16934400 b12700800 c18144000 b13910400 c18144000 b14515200 c16934400 b14515200 c16329600 b15120000 c17539200 b14515200 c16934400 b14515200 c16329600 b15120000 c16934400 b14515200 c16934400 b14515200 c16329600 b15724800 c16934400 b14515200 c16329600 b15120000 c16934400 b14515200 c16934400 b14515200 c16329600 b15120000 c16934400 b18748800 c8467200 d37494000 c8467200 d20563200 c10886400 d20563200 c11491200 d19958400 c14515200 d17020800 c8985600 b7261200 c16329600 b15120000 c13910400 d2415600 c10281600 b7261200 c11491200 b19958400 c13305600 b18144000 c14515200 b16329600 c15120000 b16329600 c15724800 b16329600 c15120000 b14515200 c16329600 b15120000 c16934400 b14515200 c17539200 b14515200 c16329600 d787446000 c15724800 d15724800 c15724800 d15724800 c16329600 d15724800 c15724800 d15724800 c15724800 d15724800 c15724800 d15724800 c15724800 d15724800 c15724800 d15724800 c16329600 d15724800 c15724800 d15724800 c15724800 d15724800 c15724800 d15724800 c15724800 d15724800 c15724800;1996 3 25 0 3600 d 10 25 0 3600 c"),
  ("Europe/Helsinki", "5989 7200 10800;b-1535938789 c660267589 b15897600 c1214445600 b15724800 c15724800 b15724800 c15728400 b15724800 c15724800 b16329600 c15724800 b15724800 c15724800 b15724800 c15724800 b15724800 c15724800 b15724800 c15724800 b15724800 c15724800 b16329600 c15724800 b15724800 c15724800 b15724800 c15724800 b15724800 c15724800 b15724800 c15724800 b15724800;1996 3 25 0 3600 c 10 25 0 3600 b"),
  ("Europe/Istanbul", "6952 7016 7200 10800 14400;b-2840147752 c970271936 d176169416 c13215600 d110077200 c18226800 d13827600 c15807600 d15037200 c16930800 d50374800 c12178800 d18320400 c13215600 d465440400 c8377200 d4842000 c25398000 d16592400 c111106800 d20394000 c10537200 d17370000 c14511600 d16938000 c14511600 d16333200 c15116400 d16938000 c15116400 d16938000 c14511600 d339901200 c40777200 d17110800 c12006000 d273636000 c13305600 d12704400 c18745200 d12013200 c19436400 d12099600 c19350000 d13309200 c16930800 d14518800 e168130800 d5439600 c34218000 d14688000 c13910400 d15811200 c15724800 d15724800 c15724800 d15724800 c15724800 d15724800 c15724800 d15724800 c16329600 d15724800 c15724800 d15724800 c15724800 d15724800 c15724800 d15120000 c16329600 d15724800 c15724800 d16329600 c18144000 d13305600 c18144000 d13305600 c18144000 d13305600 c18748800 d12700800 c18748800 d12700800 c18748800 d13305600 c18144000 d13305600 c18144000 d13305600 c18748800 d12700800 c18748800 d12700800 c18748800 d12708000 c18748800 d13305600 c18144000 d13305600 c18144000 d13305600 c18748800 d12787200 c18662400 d12700800 c18748800 d13305600 c18144000 d13392000 c18057600 d13305600 c19353600 d12096000;"),
  ("Europe/Kaliningrad", "4920 3600 7200 10800 14400;b-2422056120 c728349720 b13222800 c17028000 b13305600 c18144000 b13305600 c679795200 b81648000 c12700800 b16329600 c15724800 b15724800 c15724800 d2322000 c16066800 d13568400 e1104015600 d15807600 e15728400 d15807600 e15728400 d15807600 e15814800 d15732000 e15724800 d15724800 e15724800 d15724800 e15724800 d15724800 e15724800 d15724800 c31453200 d15724800 c16329600 d15724800 c15724800 d15724800 c15724800 d15724800 c15724800 d15724800 c15724800 d15724800 c15724800 d16329600 c18144000 d13305600 c18144000 d13305600 c18144000 d13305600 c18748800 d12700800 c18748800 d12700800 c18748800 d13305600 c18144000 d13305600 c18144000 d13305600 c18748800 d12700800 c18748800 d12700800 c18748800 d12700800 c18748800 d13305600 c18144000 d13305600 c18144000 d13305600 c18748800 d12700800 c113094000;"),
  ("Europe/Kirov", "11928 10800 14400 18000;b-1593820800 c346280400 d1602457200 c15807600 d15728400 c15807600 d15728400 c15807600 d15814800 c15732000 d15724800 c15724800 d15724800 c15724800 d15724800 c15724800 d15724800 c15724800 b31453200 c15724800 b16329600 c15724800 b47174400 c15724800 b15724800 c15724800 b15724800 c15724800 b15724800 c16329600 b18144000 c13305600 b18144000 c13305600 b18144000 c13305600 b18748800 c12700800 b18748800 c12700800 b18748800 c13305600 b18144000 c13305600 b18144000 c13305600 b18748800 c12700800 b18748800 c12700800 b18748800 c12700800 b18748800 c13305600 b18144000 c13305600 b18144000 c13305600 b18748800 c12700800 b113094000;"),
  ("Europe/Kyiv", "7324 7200 10800 3600 14400;b-1441159324 c193622524 b355014000 d35265600 b12700800 d16329600 c2844000 e1180303200 c15807600 e15728400 c15807600 e15728400 c15807600 e15814800 c15732000 e15724800 c15724800 e15724800 c15724800 e15724800 c15724800 e15724800 c15724800 e15724800 c15724800 e15724800 c8463600 b39319200 c15724800 b15724800 c15724800 b15724800 c15724800 b15724800 c15724800 b15724800 c16329600 b18147600;1997 3 25 0 3600 c 10 25 0 3600 b"),
  ("Europe/Lisbon", "-2205 0 3600 7200;b-1830384000 c140828400 b11754000 c10368000 b19695600 c11840400 b19695600 c11840400 b19695600 c11926800 b19695600 c11840400 b19695600 c79056000 b14774400 c48384000 b14515200 c16329600 b15120000 c16934400 b15120000 c16934400 b14515200 c48384000 b14515200 c15724800 b15724800 c47779200 b15724800 c15120000 b16329600 c16934400 b14515200 c15724800 b15724800 c15120000 b16329600 c16934400 b18748800 c8467200 b19526400 c15552000 b15811200 c13824000 d3625200 c9676800 b6051600 c12096000 d3020400 c11491200 b5446800 c11491200 d3625200 c10886400 b5446800 c11491200 d3625200 c10886400 b5446800 c13910400 b15724800 c15735600 b15724800 c15724800 b15724800 c15724800 b15724800 c15724800 b15724800 c15724800 b16329600 c15724800 b15724800 c15724800 b15724800 c15724800 b15724800 c15724800 b15724800 c15724800 b16329600 c15724800 b15724800 c15724800 b15724800 c15724800 b15724800 c15724800 b15724800 c15724800 b15724800 c15724800 b16329600 c15724800 b15724800 c15724800 b15724800 c15724800 b15724800 c15724800 b330818400 c15724800 b15724800 c16333200 b15724800 c15724800 b15724800 c16329600 b15120000 c15721200 b15724800 c15724800 b15724800 c15724800 b15724800 c15724800 b16329600 c15724800 b15724800 c15728400 b15724800 c15724800 b15724800 c15724800 b15724800 c15724800 b15724800 c15724800 b16329600 c15724800 b15724800 c15724800 d31449600 c15724800 d15724800 c15724800 d15724800 c15724800 b34473600;1997 3 25 0 3600 c 10 25 0 3600 b"),
  ("Europe/London", "-75 0 3600 7200;b-3852662325 c2160698325 b11491200 c16329600 b13996800 c16243200 b16416000 c15638400 b15811200 c15638400 b18230400 c13824000 b15811200 c15033600 b16934400 c16934400 b12700800 c18144000 b13910400 c18144000 b14515200 c16934400 b14515200 c16329600 b15120000 c17539200 b14515200 c16934400 b14515200 c16329600 b15120000 c16934400 b14515200 c16934400 b14515200 c16329600 b15724800 c16934400 b14515200 c16329600 b15120000 c16934400 b14515200 c16934400 b14515200 c16329600 b15120000 c16934400 b18748800 c8467200 d37494000 c8467200 d20563200 c10886400 d20563200 c11491200 d19958400 c14515200 d17020800 c8985600 b7261200 c16329600 b15120000 c13910400 d2415600 c10281600 b7261200 c11491200 b19958400 c13305600 b18144000 c14515200 b16329600 c15120000 b16329600 c15724800 b16329600 c15120000 b14515200 c16329600 b15120000 c16934400 b14515200 c17539200 b14515200 c16329600 b15120000 c16934400 b14515200 c16934400 b14515200 c16329600 b15120000 c15120000 b18748800 c12700800 b18748800 c13305600 b18144000 c12700800 b18748800 c12700800 b18748800 c12700800 b18748800 c12700800 b19353600 c9676800 b116726400 c12096000 b19353600 c12096000 b19353600 c12096000 b19353600 c12096000 b19353600 c12700800 b18748800 c12700800 b18748800 c12700800 b19353600 c12096000 b19353600 c12096000 b19353600 c13302000 b18144000 c13305600 b18144000 c13305600 b18144000 c13305600 b18748800 c13305600 b18144000 c13305600 b18144000 c13305600 b18144000 c13305600 b18144000 c13305600 b18748800 c12700800 b18748800 c13305600 b18144000 c13305600 b18144000 c13305600 b18144000 c13305600 b18144000 c13305600 b18144000;1996 3 25 0 3600 c 10 25 0 3600 b"),
  ("Europe/Madrid", "-884 0 3600 7200;b-2177452800 c545526000 b15037200 c15721200 b15814800 c142902000 b14778000 c48380400 b14518800 c16326000 b15123600 c16934400 b15120000 c16930800 b14518800 c242866800 b9334800 c15721200 d2415600 c13392000 b31975200 c13906800 d67129200 c10458000 d19782000 c14518800 d16930800 c14518800 d16930800 c14518800 d16930800 c14518800 d81644400 c13309200 d774140400 c15123600 d16326000 c15123600 d15116400 c15728400 d16326000 c15123600 d16336800 c15724800 d15724800 c15724800 d16329600 c15120000 d15724800 c15724800 d15724800 c15724800 d15724800 c15724800 d15724800 c16329600 d15724800 c15724800 d15724800 c15724800 d15724800 c15724800 d15724800 c15724800 d15724800 c15724800 d15724800 c16329600 d15724800 c15724800 d15724800 c15724800 d15724800 c15724800 d15724800 c15724800 d15724800 c15724800;1996 3 25 0 3600 d 10 25 0 3600 c"),
  ("Europe/Malta", "3484 3600 7200;b-2403478684 c712713484 b10278000 c15728400 b15807600 c13827600 b18226800 c12618000 b18745200 c14518800 b15721200 c622861200 b75175200 c12700800 b16329600 c15638400 b14515200 c17020800 b14335200 c15818400 b17539200 c13903200 b17539200 c12708000 b18748800 c556408800 b10882800 c21171600 b10281600 c21168000 b10281600 c21772800 b10281600 c21168000 b10281600 c20563200 b10886400 c21168000 b10886400 c15638400 b15724800 c17625600 b12787200 c18669600 b13302000 c18147600 b13302000 c18147600 b13302000 c18147600 b13302000 c18147600 b13302000 c17024400 b15030000 c16333200 b15724800 c15724800 b15724800 c15724800 b15724800 c15724800 b16329600 c15724800 b15724800 c15724800 b15724800 c15724800 b15724800 c15724800 b15724800 c15724800 b15724800 c15724800 b16329600 c15724800 b15724800 c15724800 b15724800 c15724800 b15724800 c15724800 b15724800 c15724800 b15724800;1996 3 25 0 3600 c 10 25 0 3600 b"),
  ("Europe/Minsk", "6616 6600 7200 10800 3600 14400;b-2840147416 c1398988816 d193621800 c347756400 e42523200 c12700800 e16329600 c15724800 d7851600 f1159570800 d15807600 f15728400 d15807600 f15728400 d15807600 f15814800 d15732000 f15724800 d15724800 f15724800 d15724800 f15724800 d15724800 f15724800 d15724800 f15724800 d15724800 c63507600 d15724800 c15724800 d15724800 c15724800 d15724800 c15724800 d15724800 c15724800 d16329600 c18144000 d13305600 c18144000 d13305600 c18144000 d13305600 c18748800 d12700800 c18748800 d12700800 c18748800 d13305600 c18144000 d13305600 c18144000 d13305600 c18748800 d12700800 c18748800 d12700800 c18748800 d12700800 c18748800 d13305600 c18144000 d13305600 c18144000 d13305600 c18748800 d12700800;"),
  ("Europe/Moscow", "9017 9079 12679 16279 14400 10800 18000 7200;b-1688265017 c31445938 b15465600 d13388400 c9248400 d22287600 e2608279 f3960000 e47433600 g2934000 e14169600 f2595600 h31539600 f243651600 e1602457200 f15807600 e15728400 f15807600 e15728400 f15807600 e15814800 f15732000 e15724800 f15724800 e15724800 f15724800 e15724800 f15724800 e15724800 f15724800 e15724800 f15724800 e15724800 f16329600 h31453200 f9676800 e6044400 f15724800 e15724800 f15724800 e15724800 f15724800 e15724800 f15724800 e16329600 f18144000 e13305600 f18144000 e13305600 f18144000 e13305600 f18748800 e12700800 f18748800 e12700800 f18748800 e13305600 f18144000 e13305600 f18144000 e13305600 f18748800 e12700800 f18748800 e12700800 f18748800 e12700800 f18748800 e13305600 f18144000 e13305600 f18144000 e13305600 f18748800 e12700800 f113094000;"),
  ("Europe/Paris", "561 0 3600 7200;b-1855958961 c166144161 b9417600 c15033600 b17020800 c13219200 b18230400 c12614400 b18835200 c11404800 b21772800 c12268800 b19440000 c13046400 b16934400 c19958400 b11491200 c15120000 b16329600 c15724800 b15724800 c16934400 b14515200 c16329600 b15120000 c16934400 b15120000 c16934400 b14515200 c16329600 b15120000 c16934400 b14515200 c15724800 b15724800 c15120000 b16934400 c15724800 b15724800 c15120000 b16329600 c16934400 b14515200 c15724800 b15724800 c15120000 b16329600 c16934400 b18748800 c8478000 d9576000 c75178800 d12700800 c16329600 d15724800 c16236000 d15213600 c14428800 d963442800 c15721200 d16336800 c15120000 d16329600 c15724800 d15724800 c15724800 d16329600 c15120000 d15724800 c15724800 d15724800 c15724800 d15724800 c15724800 d15724800 c16329600 d15724800 c15724800 d15724800 c15724800 d15724800 c15724800 d15724800 c15724800 d15724800 c15724800 d15724800 c16329600 d15724800 c15724800 d15724800 c15724800 d15724800 c15724800 d15724800 c15724800 d15724800 c15724800;1996 3 25 0 3600 d 10 25 0 3600 c"),
  ("Europe/Prague", "3464 3600 7200 0;b-2469401864 c775695464 b13222800 c17028000 b13305600 c18144000 b13305600 c679795200 b81648000 c12700800 b16329600 c15724800 b15724800 c15724800 b15724800 c18748800 b13219200 d4842000 b7257600 c4834800 b14515200 c16934400 b14515200 c16243200 b15206400 c930787200 b15724800 c16329600 b15120000 c15724800 b15724800 c15724800 b15724800 c15724800 b15724800 c15724800 b16329600 c15724800 b15724800 c15724800 b15724800 c15724800 b15724800 c15724800 b15724800 c15724800 b15724800 c15724800 b16329600 c15724800 b15724800 c15724800 b15724800 c15724800 b15724800 c15724800 b15724800 c15724800 b15724800;1996 3 25 0 3600 c 10 25 0 3600 b"),
  ("Europe/Riga", "5794 9394 7200 10800 3600 14400;b-1632008194 a13305600 b17020800 a4406400 c219967200 d449278594 c28508400 e42264000 c12700800 e16329600 c15724800 e15724800 d943200 f1150754400 d15807600 f15728400 d15807600 f15728400 d15807600 f15814800 d15732000 f15724800 d15724800 f15724800 d15724800 f15724800 d15724800 f15724800 d15724800 c31453200 d15724800 c16329600 d15724800 c15724800 d15724800 c15724800 d15724800 c15724800 d15724800 c15724800 d15724800 c15724800 d16329600 c15724800 d15728400 c18144000 d13305600 c18144000 d13305600 c18748800;2001 3 25 0 3600 d 10 25 0 3600 c"),
  ("Europe/Rome", "2996 3600 7200;b-2403565200 c712800000 b10278000 c15728400 b15807600 c13827600 b18226800 c12618000 b18745200 c14518800 b15721200 c622861200 b75175200 c12700800 b16329600 c15724800 b14428800 c17020800 b14335200 c15818400 b17539200 c13903200 b17539200 c12708000 b18748800 c556408800 b10882800 c21171600 b10281600 c21168000 b10281600 c21772800 b10281600 c21168000 b10281600 c20563200 b10886400 c21168000 b10886400 c21168000 b10281600 c20563200 b10886400 c21168000 b10281600 c21168000 b10281600 c20563200 b10886400 c21168000 b10886400 c20563200 b10886400 c16336800 b15120000 c15724800 b15724800 c15724800 b15724800 c15724800 b15724800 c15724800 b16329600 c15724800 b15724800 c15724800 b15724800 c15724800 b15724800 c15724800 b15724800 c15724800 b15724800 c15724800 b16329600 c15724800 b15724800 c15724800 b15724800 c15724800 b15724800 c15724800 b15724800 c15724800 b15724800;1996 3 25 0 3600 c 10 25 0 3600 b"),
  ("Europe/Samara", "12020 10800 14400 18000;b-1593820800 c346280400 d1602457200 c15807600 d15728400 c15807600 d15728400 c15807600 d15814800 c15732000 d15724800 c15724800 d15724800 c15724800 d15724800 c15724800 d15724800 c15724800 b31453200 c15724800 b16329600 c33267600 d13903200 c15724800 d15724800 c15724800 d15724800 c15724800 d15724800 c15724800 d16329600 c18144000 d13305600 c18144000 d13305600 c18144000 d13305600 c18748800 d12700800 c18748800 d12700800 c18748800 d13305600 c18144000 d13305600 c18144000 d13305600 c18748800 d12700800 c18748800 d12700800 c18748800 d12700800 c18748800 d13305600 c18144000 d13305600 c18144000 b32058000 c12700800;"),
  ("Europe/Saratov", "11058 10800 14400 18000;b-1593820800 c346280400 d1602457200 c15807600 d15728400 c15807600 d15728400 c15807600 d15814800 c15732000 d15724800 c15724800 d15724800 c15724800 d15724800 c15724800 b31453200 c15724800 b15724800 c15724800 b16329600 c15724800 b47174400 c15724800 b15724800 c15724800 b15724800 c15724800 b15724800 c16329600 b18144000 c13305600 b18144000 c13305600 b18144000 c13305600 b18748800 c12700800 b18748800 c12700800 b18748800 c13305600 b18144000 c13305600 b18144000 c13305600 b18748800 c12700800 b18748800 c12700800 b18748800 c12700800 b18748800 c13305600 b18144000 c13305600 b18144000 c13305600 b18748800 c12700800 b113094000 c66531600;"),
  ("Europe/Simferopol", "8184 8160 7200 10800 3600 14400;b-2840148984 c1398988824 d193623360 c358642800 e31636800 c12700800 e16329600 c15724800 d853200 f1166569200 d15807600 f15728400 d15807600 f15728400 d15807600 f15814800 d15732000 f15724800 d15724800 f15724800 d15724800 f15724800 d15724800 f15724800 d15724800 f15724800 d15724800 c24192000 d55040400 c15724800 d15724800 c15724800 d15724800 f3013200 d12708000 f15724800 d15724800 f16322400 d18154800 c31453200 d13305600 c18144000 d13305600 c18748800 d12700800 c18748800 d12700800 c18748800 d13305600 c18144000 d13305600 c18144000 d13305600 c18748800 d12700800 c18748800 d12700800 c18748800 d12700800 c18748800 d13305600 c18144000 d13305600 c18144000 d13305600 c18748800 d12700800 c18748800 d12700800 c18748800 d13305600 c18144000 f13302000 d18136800;"),
  ("Europe/Sofia", "5596 7016 7200 3600 10800;b-2840146396 c470619380 d1512269816 c12700800 d16329600 c15724800 d15724800 c15728400 e1072810800 c15814800 e16239600 c15210000 e16239600 c15127200 e16322400 c15130800 e15724800 c15724800 e15724800 c16329600 e15724800 c15724800 e15724800 c15724800 e15724800 c15724800 e15724800 c15724800 e15724800 c15724800 e15724800 c16329600 e15717600 c15721200 e15728400 c15721200 e15728400 c15721200 e15728400 c15721200 e15728400 c15721200 e16333200 c18140400;1997 3 25 0 3600 e 10 25 0 3600 c"),
  ("Europe/Tallinn", "5940 3600 7200 10800 14400;b-1638322740 c6316740 b13305600 a24876000 c57885660 d607995540 c34988400 b35697600 c12700800 b16329600 c15724800 d14850000 e1152572400 d15807600 e15728400 d15807600 e15728400 d15807600 e15814800 d15732000 e15724800 d15724800 e15724800 d15724800 e15724800 d15724800 e15724800 d15724800 c31453200 d15724800 c16329600 d15724800 c15724800 d15724800 c15724800 d15724800 c15724800 d15724800 c15724800 d15724800 c15724800 d16329600 c18144000 d13305600 c18144000 d13305600 c18147600 d13305600 c18748800;2002 3 25 0 3600 d 10 25 0 3600 c"),
  ("Europe/Tirane", "4760 3600 7200;b-1767230360 c834884360 b75088800 c12700800 b1036800 c980373600 b13042800 c18234000 b13302000 c18406800 b13302000 c18752400 b12697200 c18666000 b12783600 c18666000 b12783600 c18666000 b13302000 c17629200 b13302000 c18752400 b13302000 c17024400 b14338800 c15814800 b15732000 c15724800 b15724800 c15724800 b15724800 c15724800 b15724800 c15724800 b15724800 c15724800 b15724800 c15724800 b16329600 c15724800 b15724800 c15724800 b15724800 c15724800 b15724800 c15724800 b15724800 c15724800 b15724800;1996 3 25 0 3600 c 10 25 0 3600 b"),
  ("Europe/Ulyanovsk", "11616 10800 14400 18000 7200;b-1593820800 c346280400 d1602457200 c15807600 d15728400 c15807600 d15728400 c15807600 d15814800 c15732000 d15724800 c15724800 d15724800 c15724800 d15724800 c15724800 d15724800 c15724800 b31453200 c15724800 b16329600 e31453200 b9676800 c6044400 b15724800 c15724800 b15724800 c15724800 b15724800 c15724800 b15724800 c16329600 b18144000 c13305600 b18144000 c13305600 b18144000 c13305600 b18748800 c12700800 b18748800 c12700800 b18748800 c13305600 b18144000 c13305600 b18144000 c13305600 b18748800 c12700800 b18748800 c12700800 b18748800 c12700800 b18748800 c13305600 b18144000 c13305600 b18144000 c13305600 b18748800 c12700800 b113094000 c44758800;"),
  ("Europe/Vienna", "3921 3600 7200;b-2422055121 c728348721 b13222800 c17028000 b13305600 c18144000 b13305600 c48988800 b13910400 c616896000 b81648000 c12700800 b16329600 c15724800 b15724800 c15724800 b864000 c31708800 b15206400 c15638400 b15724800 c16934400 b14515200 c994284000 b15116400 c15735600 b15724800 c15724800 b15724800 c15724800 b15724800 c15724800 b16329600 c15724800 b15724800 c15724800 b15724800 c15724800 b15724800 c15724800 b15724800 c15724800 b15724800 c15724800 b16329600 c15724800 b15724800 c15724800 b15724800 c15724800 b15724800 c15724800 b15724800 c15724800 b15724800;1996 3 25 0 3600 c 10 25 0 3600 b"),
  ("Europe/Vilnius", "6076 5040 5736 3600 7200 10800 14400;b-2840146876 c1167610636 d87436104 e23848536 d7686000 f625366800 e28072800 d42868800 e12700800 d16329600 e15724800 f10357200 g1157065200 f15807600 g15728400 f15807600 g15728400 f15807600 g15814800 f15732000 g15724800 f15724800 g15724800 f15724800 g15724800 f15724800 g15724800 f15724800 e31453200 f15724800 e16329600 f15724800 e15724800 f15724800 e15724800 f15724800 e15724800 f15724800 e15724800 f15724800 e15724800 f16329600 e18144000 f13305600 e18144000 d31453200 e13305600;2003 3 25 0 3600 f 10 25 0 3600 e"),
  ("Europe/Volgograd", "10660 10800 14400 18000;b-1577761060 c330220660 d1602457200 c15807600 d15728400 c15807600 d15728400 c15807600 d15814800 c15732000 d15724800 c15724800 d15724800 c15724800 d15724800 c15724800 b31453200 c15724800 b15724800 c15724800 b16329600 c15724800 b47174400 c15724800 b15724800 c15724800 b15724800 c15724800 b15724800 c16329600 b18144000 c13305600 b18144000 c13305600 b18144000 c13305600 b18748800 c12700800 b18748800 c12700800 b18748800 c13305600 b18144000 c13305600 b18144000 c13305600 b18748800 c12700800 b18748800 c12700800 b18748800 c12700800 b18748800 c13305600 b18144000 c13305600 b18144000 c13305600 b18748800 c12700800 b113094000 c126406800 b68338800;"),
  ("Europe/Warsaw", "5040 3600 7200 10800;b-1717032240 c23325840 b13222800 c17028000 b13305600 c18144000 d31532400 c13305600 b85442400 c569991600 b74476800 c12700800 b16329600 c15724800 b15894000 c17881200 b16066800 c14173200 b15213600 c18057600 b13305600 c16934400 b14515200 c16329600 b15120000 c241916400 b10281600 c15724800 b15724800 c21168000 b10886400 c15724800 b15724800 c20563200 b10886400 c20563200 b10886400 c20563200 b10886400 c21168000 b10281600 c394934400 b15120000 c16329600 b15724800 c15724800 b15724800 c16329600 b15120000 c15724800 b15724800 c15724800 b15724800 c15724800 b15724800 c15724800 b16329600 c15724800 b15724800 c15724800 b15724800 c15724800 b15724800 c15728400 b15724800 c15724800 b15724800 c15724800 b16329600 c15724800 b15724800 c15724800 b15724800 c15724800 b15724800 c15724800 b15724800 c15724800 b15724800;1996 3 25 0 3600 c 10 25 0 3600 b"),
  ("Europe/Zurich", "2048 1786 3600 7200;b-3675198848 c1289952262 d1480811386 c13305600 d18144000 c13305600 d1214355600 c15724800 d15724800 c15724800 d15724800 c15724800 d15724800 c16329600 d15724800 c15724800 d15724800 c15724800 d15724800 c15724800 d15724800 c15724800 d15724800 c15724800 d15724800 c16329600 d15724800 c15724800 d15724800 c15724800 d15724800 c15724800 d15724800 c15724800 d15724800 c15724800;1996 3 25 0 3600 d 10 25 0 3600 c")]

def indian : List (String × String) := [
  ("Indian/Chagos", "17380 18000 21600;b-1988167780 c2808604180;"),
  ("Indian/Maldives", "17640 18000;b-315636840;"),
  ("Indian/Mauritius", "13800 14400 18000;b-1988164200 c2391205800 b13993200 c807937200 b13302000;")]

def pacific : List (String × String) := [
  ("Pacific/Apia", "45184 -41216 -41400 -39600 -36000 50400 46800;b-2445424384 c583545600 d1230768184 e1916609400 d16254000 e15120000 f8366400 g7963200 f15724800 g16329600 f15120000 g16329600 f15120000 g16329600 f15120000 g16329600 f15120000 g16329600 f15120000 g16329600 f15724800 g16329600 f15120000 g16329600 f15120000 g16329600;"),
  ("Pacific/Auckland", "41944 41400 45000 43200 46800;b-3192435544 c1862100544 b10278000 d19357200 b13303800 d18145800 b13303800 d18145800 b13303800 d18145800 b13908600 d17541000 b13908600 d17541000 b17537400 d13307400 b18142200 d13307400 b18142200 d13307400 b18142200 d13307400 b18142200 d13307400 b18747000 d12702600 b18747000 d13307400 e1075937400 d9676800 e21168000 d11491200 e20563200 d10886400 e20563200 d10886400 e20563200 d10886400 e20563200 d10886400 e20563200 d10886400 e20563200 d11491200 e20563200 d10886400 e20563200 d10886400 e20563200 d10886400 e20563200 d10886400 e20563200 d10886400 e20563200 d11491200 e20563200 d10886400 e18748800 d13910400 e17539200 d13910400 e17539200 d13910400 e17539200 d14515200 e16934400 d14515200 e16934400 d14515200 e16934400 d14515200 e17539200 d13910400 e17539200 d13910400 e17539200 d14515200 e16934400 d14515200 e16934400 d14515200 e17539200 d13910400 e17539200 d13910400 e17539200 d14515200 e16934400 d14515200 e16934400 d14515200 e16934400 d14515200 e16934400;2008 4 1 0 -36000 d 9 24 0 -36000 e"),
  ("Pacific/Bougainville", "37336 35312 36000 32400 39600;b-2840178136 c473387624 d1498780112 c99104400 e2188602000;"),
  ("Pacific/Chatham", "44028 44100 45900 49500;b-3192437628 c2435011128 d910059300 c9676800 d21168000 c11491200 d20563200 c10886400 d20563200 c10886400 d20563200 c10886400 d20563200 c10886400 d20563200 c10886400 d20563200 c11491200 d20563200 c10886400 d20563200 c10886400 d20563200 c10886400 d20563200 c10886400 d20563200 c10886400 d20563200 c11491200 d20563200 c10886400 d18748800 c13910400 d17539200 c13910400 d17539200 c13910400 d17539200 c14515200 d16934400 c14515200 d16934400 c14515200 d16934400 c14515200 d17539200 c13910400 d17539200 c13910400 d17539200 c14515200 d16934400 c14515200 d16934400 c14515200 d17539200 c13910400 d17539200 c13910400 d17539200 c14515200 d16934400 c14515200 d16934400 c14515200 d16934400 c14515200 d16934400;2008 4 1 0 -36000 c 9 24 0 -36000 d"),
  ("Pacific/Easter", "-26248 -25200 -21600 -18000;b-1178124152 c1141504952 b12697200 c20566800 b10882800 c16938000 b13302000 c18147600 b13302000 c18752400 b12697200 c17542800 b13906800 c18752400 b12697200 c18752400 b13302000 c18147600 b13302000 c18147600 b13302000 c18752400 b12697200 c18752400 b12697200 c18752400 b13302000 c18147600 d31449600 c13302000 d18147600 c13302000 d18752400 c12697200 d18752400 c12697200 d18752400 c15721200 d15728400 c13302000 d18147600 c13302000 d18752400 c12697200 d16333200 c15116400 d18752400 c13302000 d18147600 c13302000 d18147600 c13302000 d18147600 c13302000 d18752400 c12697200 d18752400 c14511600 d16938000 c13302000 d16938000 c16326000 d16333200 c13302000 d18752400 c12697200 d18752400 c12697200 d18752400 c12697200 d18752400 c13302000 d18147600 c13302000 d18147600 c13302000 d18752400 c12697200 d18752400 c14511600 d16938000 c13302000 d18147600 c15116400 d16333200 c18140400 d9075600 c21769200 d10890000 c20559600 d11494800 c19954800 d11494800 c53218800 d7866000 c23583600 d7866000 c23583600 d7866000 c20559600 d13309200 c18140400 d13309200 c18140400 d13309200 c18140400 d13914000;2023 4 2 0 10800 c 9 2 0 14400 d"),
  ("Pacific/Efate", "40396 39600 43200;b-1829387596 c1954797196 b8467200 c299379600 b15721200 c15728400 b15721200 c16333200 b15116400 c16333200 b15721200 c15728400 b15721200 c15728400 b15721200 c15728400 b15721200 c15728400 b15721200 c16333200 b10278000 c23590800 b7858800;"),
  ("Pacific/Fakaofo", "-41096 -39600 46800;b-2177411704 c3502654504;"),
  ("Pacific/Fiji", "42944 43200 46800;b-1709985344 c2619827744 b10281600 c21772800 b9676800 c307843200 b10281600 c18144000 b11491200 c19958400 b7862400 c23587200 b7862400 c24192000 b7254000 c24800400 b6652800 c24796800 b6652800 c25401600 b6048000 c25401600 b6048000 c25401600 b6048000 c26006400 b5443200 c29635200 b2419200;"),
  ("Pacific/Galapagos", "-21504 -18000 -21600;b-1230746496 c1735686096 b217990800 c5958000;"),
  ("Pacific/Gambier", "-32388 -32400;b-1806678012;"),
  ("Pacific/Guadalcanal", "38388 39600;b-1806748788;"),
  ("Pacific/Guam", "-51660 34740 36000 32400 39600;b-3944626740 c1767139200 d1291937940 c83293200 e470365200 c50281200 e207882000 c44312460 e12711540 c6044400 e20566800 c11487600 e19962000 c11487600 e71974800 c6044400 e71024400 c7599660 e21171540 c10882800;"),
  ("Pacific/Honolulu", "-37886 -37800 -34200 -36000;b-2334101314 c1176818314 b1846800 c275238000 b114822000 d53226000;"),
  ("Pacific/Kanton", "0 -43200 -39600 46800;b-1020470400 c1328097600 d481244400;"),
  ("Pacific/Kiritimati", "-37760 -38400 -36000 50400;b-2177415040 c2485037440 d481245600;"),
  ("Pacific/Kosrae", "-47284 39116 39600 32400 36000 43200;b-3944631116 c1767139200 d433813916 c136864800 e565394400 d134010000 c136774800 f762645600 c923094000;"),
  ("Pacific/Kwajalein", "40160 39600 36000 32400 -43200 43200;b-2177492960 c1136074160 d134010000 b89946000 e809474400 f753922800;"),
  ("Pacific/Marquesas", "-33480 -34200;b-1806676920;"),
  ("Pacific/Nauru", "40060 41400 32400 43200;b-1545131260 c682213060 b95567400 d1054769400;"),
  ("Pacific/Niue", "-40780 -40800 -39600;b-543069620 c369446420;"),
  ("Pacific/Norfolk", "40312 40320 41400 45000 39600 43200;b-2177493112 c1577836792 d751686120 c10886400 e1280966400 f126405000;2020 4 1 0 -32400 e 10 1 0 -32400 f"),
  ("Pacific/Noumea", "39948 39600 43200;b-1829387148 c2079389148 b7340400 c24109200 b7426800 c560487600 b7862400;"),
  ("Pacific/Pago_Pago", "45432 -40968 -39600;b-2445424632 c583545600;"),
  ("Pacific/Palau", "-54124 32276 32400;b-3944624276 c1767139200;"),
  ("Pacific/Pitcairn", "-31220 -30600 -28800;b-2177421580 c3071087380;"),
  ("Pacific/Port_Moresby", "35320 35312 36000;b-2840176120 c473385608;"),
  ("Pacific/Rarotonga", "48056 -38344 -37800 -34200 -36000;b-2209555256 c1666483200 d822786656 e9673200 d20565000 e10884600 d20565000 e10884600 d20565000 e11489400 d20565000 e10884600 d20565000 e10884600 d20565000 e10884600 d20565000 e10884600 d20565000 e10884600 d20565000 e11489400 d20565000 e10884600 d20565000 e10884600 d20565000 e10884600;"),
  ("Pacific/Tahiti", "-35896 -36000;b-1806674504;"),
  ("Pacific/Tarawa", "41524 43200;b-2177494324;"),
  ("Pacific/Tongatapu", "44352 44400 46800 50400;b-767189952 c483148752 d1223256000 c14169600 d19958400 c7254000 d24195600 c7254000 d466304400 c6048000;")]

end Metering.Zone.Table
