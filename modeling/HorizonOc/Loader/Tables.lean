import HorizonOc.Loader.Customize

namespace HorizonOc.Loader

/-! The stock tables of `pcv.hpp`, and the customize table as `customize.cpp` has it. -/

namespace Mariko

def cpuCvbTableDefault : DvfsTable := dvfsTable
  [cvbEntry 204000 [721589, -12695, 27] [], cvbEntry 306000 [747134, -14195, 27] [],
   cvbEntry 408000 [776324, -15705, 27] [], cvbEntry 510000 [809160, -17205, 27] [],
   cvbEntry 612000 [845641, -18715, 27] [], cvbEntry 714000 [885768, -20215, 27] [],
   cvbEntry 816000 [929540, -21725, 27] [], cvbEntry 918000 [976958, -23225, 27] [],
   cvbEntry 1020000 [1028021, -24725, 27] [1120000],
   cvbEntry 1122000 [1082730, -26235, 27] [1120000],
   cvbEntry 1224000 [1141084, -27735, 27] [1120000],
   cvbEntry 1326000 [1203084, -29245, 27] [1120000],
   cvbEntry 1428000 [1268729, -30745, 27] [1120000],
   cvbEntry 1581000 [1374032, -33005, 27] [1120000],
   cvbEntry 1683000 [1448791, -34505, 27] [1120000],
   cvbEntry 1785000 [1527196, -36015, 27] [1120000],
   cvbEntry 1887000 [1609246, -37515, 27] [1120000],
   cvbEntry 1963500 [1675751, -38635, 27] [1120000]]

def gpuCvbTableDefault : DvfsTable := dvfsTable
  [cvbEntry 76800 [] [610000], cvbEntry 153600 [] [610000], cvbEntry 230400 [] [610000],
   cvbEntry 307200 [] [610000], cvbEntry 384000 [] [610000], cvbEntry 460800 [] [610000],
   cvbEntry 537600 [] [801688, -10900, -163, 298, -10599, 162],
   cvbEntry 614400 [] [824214, -5743, -452, 238, -6325, 81],
   cvbEntry 691200 [] [848830, -3903, -552, 119, -4030, -2],
   cvbEntry 768000 [] [891575, -4409, -584, 0, -2849, 39],
   cvbEntry 844800 [] [940071, -5367, -602, -60, -63, -93],
   cvbEntry 921600 [] [986765, -6637, -614, -179, 1905, -13],
   cvbEntry 998400 [] [1098475, -13529, -497, -179, 3626, 9],
   cvbEntry 1075200 [] [1163644, -12688, -648, 0, 1077, 40],
   cvbEntry 1152000 [] [1204812, -9908, -830, 0, 1469, 110],
   cvbEntry 1228800 [] [1277303, -11675, -859, 0, 3722, 313],
   cvbEntry 1267200 [] [1335531, -12567, -867, 0, 3681, 559]]

end Mariko

namespace Erista

def cpuCvbTableDefault : DvfsTable := dvfsTable
  [cvbEntry 204000 [721094] [], cvbEntry 306000 [754040] [], cvbEntry 408000 [786986] [],
   cvbEntry 510000 [819932] [], cvbEntry 612000 [852878] [], cvbEntry 714000 [885824] [],
   cvbEntry 816000 [918770] [], cvbEntry 918000 [951716] [],
   cvbEntry 1020000 [984662] [-2875621, 358099, -8585],
   cvbEntry 1122000 [1017608] [-52225, 104159, -2816],
   cvbEntry 1224000 [1050554] [1076868, 8356, -727],
   cvbEntry 1326000 [1083500] [2208191, -84659, 1240],
   cvbEntry 1428000 [1116446] [2519460, -105063, 1611],
   cvbEntry 1581000 [1130000] [2889664, -122173, 1834],
   cvbEntry 1683000 [1168000] [5100873, -279186, 4747],
   cvbEntry 1785000 [1227500] [5100873, -279186, 4747]]

def gpuCvbTableDefault : DvfsTable := dvfsTable
  [cvbEntry 76800 [] [814294, 8144, -940, 808, -21583, 226],
   cvbEntry 153600 [] [856185, 8144, -940, 808, -21583, 226],
   cvbEntry 230400 [] [898077, 8144, -940, 808, -21583, 226],
   cvbEntry 307200 [] [939968, 8144, -940, 808, -21583, 226],
   cvbEntry 384000 [] [981860, 8144, -940, 808, -21583, 226],
   cvbEntry 460800 [] [1023751, 8144, -940, 808, -21583, 226],
   cvbEntry 537600 [] [1065642, 8144, -940, 808, -21583, 226],
   cvbEntry 614400 [] [1107534, 8144, -940, 808, -21583, 226],
   cvbEntry 691200 [] [1149425, 8144, -940, 808, -21583, 226],
   cvbEntry 768000 [] [1191317, 8144, -940, 808, -21583, 226],
   cvbEntry 844800 [] [1233208, 8144, -940, 808, -21583, 226],
   cvbEntry 921600 [] [1275100, 8144, -940, 808, -21583, 226]]

end Erista

def eristaCpuDvfsTableShipped : DvfsTable := dvfsTable
  [cvbEntry 204000 [721094] [], cvbEntry 306000 [754040] [], cvbEntry 408000 [786986] [],
   cvbEntry 510000 [819932] [], cvbEntry 612000 [852878] [], cvbEntry 714000 [885824] [],
   cvbEntry 816000 [918770] [], cvbEntry 918000 [951716] [],
   cvbEntry 1020000 [984662] [-2875621, 358099, -8585],
   cvbEntry 1122000 [1017608] [-52225, 104159, -2816],
   cvbEntry 1224000 [1050554] [1076868, 8356, -727],
   cvbEntry 1326000 [1083500] [2208191, -84659, 1240],
   cvbEntry 1428000 [1116446] [2519460, -105063, 1611],
   cvbEntry 1581000 [1130000] [2889664, -122173, 1834],
   cvbEntry 1683000 [1168000] [5100873, -279186, 4747],
   cvbEntry 1785000 [1225000] [5100873, -279186, 4747],
   cvbEntry 1887000 [1225000] [5100873, -279186, 4747],
   cvbEntry 1989000 [1227500] [5100873, -279186, 4747],
   cvbEntry 2091000 [1256250] [5100873, -279186, 4747]]

def eristaCpuDvfsTableSLTShipped : DvfsTable := dvfsTable
  [cvbEntry 204000 [721094] [], cvbEntry 306000 [754040] [], cvbEntry 408000 [786986] [],
   cvbEntry 510000 [819932] [], cvbEntry 612000 [852878] [], cvbEntry 714000 [885824] [],
   cvbEntry 816000 [918770] [], cvbEntry 918000 [951716] [],
   cvbEntry 1020000 [984662] [-2875621, 358099, -8585],
   cvbEntry 1122000 [1017608] [-52225, 104159, -2816],
   cvbEntry 1224000 [1050554] [1076868, 8356, -727],
   cvbEntry 1326000 [1083500] [2208191, -84659, 1240],
   cvbEntry 1428000 [1116446] [2519460, -105063, 1611],
   cvbEntry 1581000 [1130000] [2889664, -122173, 1834],
   cvbEntry 1683000 [1168000] [5100873, -279186, 4747],
   cvbEntry 1785000 [1225000] [5100873, -279186, 4747],
   cvbEntry 1887000 [1225000] [5100873, -279186, 4747],
   cvbEntry 1989000 [1227500] [5100873, -279186, 4747],
   cvbEntry 2091000 [1227500] [5100873, -279186, 4747],
   cvbEntry 2193000 [1227500] [5100873, -279186, 4747],
   cvbEntry 2295000 [1256250] [5100873, -279186, 4747],
   cvbEntry 2397000 [1256250] [5100873, -279186, 4747]]

def marikoCpuDvfsTableShipped : DvfsTable := dvfsTable
  [cvbEntry 204000 [721589, -12695, 27] [], cvbEntry 306000 [747134, -14195, 27] [],
   cvbEntry 408000 [776324, -15705, 27] [], cvbEntry 510000 [809160, -17205, 27] [],
   cvbEntry 612000 [845641, -18715, 27] [], cvbEntry 714000 [885768, -20215, 27] [],
   cvbEntry 816000 [929540, -21725, 27] [], cvbEntry 918000 [976958, -23225, 27] [],
   cvbEntry 1020000 [1028021, -24725, 27] [1120000],
   cvbEntry 1122000 [1082730, -26235, 27] [1120000],
   cvbEntry 1224000 [1141084, -27735, 27] [1120000],
   cvbEntry 1326000 [1203084, -29245, 27] [1120000],
   cvbEntry 1428000 [1268729, -30745, 27] [1120000],
   cvbEntry 1581000 [1374032, -33005, 27] [1120000],
   cvbEntry 1683000 [1448791, -34505, 27] [1120000],
   cvbEntry 1785000 [1527196, -36015, 27] [1120000],
   cvbEntry 1887000 [1609246, -37515, 27] [1120000],
   cvbEntry 1963500 [1675751, -38635, 27] [1120000]]

def marikoCpuDvfsTableSLTShipped : DvfsTable := dvfsTable
  [cvbEntry 204000 [732856, -17335, 113] [], cvbEntry 306000 [760024, -18195, 113] [],
   cvbEntry 408000 [789258, -19055, 113] [], cvbEntry 510000 [789258, -19055, 113] [],
   cvbEntry 612000 [789258, -19055, 113] [], cvbEntry 714000 [789258, -19055, 113] [],
   cvbEntry 816000 [789258, -19055, 113] [], cvbEntry 918000 [820558, -19055, 113] [],
   cvbEntry 1020000 [853926, -20775, 113] [1120000],
   cvbEntry 1122000 [889361, -21625, 113] [1120000],
   cvbEntry 1224000 [926862, -22485, 113] [1120000],
   cvbEntry 1326000 [926862, -22485, 113] [1120000],
   cvbEntry 1428000 [926862, -22485, 113] [1120000],
   cvbEntry 1581000 [966431, -23345, 113] [1120000],
   cvbEntry 1683000 [1097537, -25925, 113] [1120000],
   cvbEntry 1785000 [1145373, -26785, 113] [1120000],
   cvbEntry 1887000 [1195276, -27645, 113] [1120000],
   cvbEntry 1963500 [1274006, -29795, 113] [1120000],
   cvbEntry 2091000 [1349076, -33235, 113] [1200000],
   cvbEntry 2193000 [1386213, -33235, 113] [1200000],
   cvbEntry 2295000 [1445416, -34095, 113] [1200000],
   cvbEntry 2397000 [1490873, -34955, 113] [1200000],
   cvbEntry 2499000 [1580725, -35815, 113] [1200000],
   cvbEntry 2601000 [1702903, -36675, 113] [1200000],
   cvbEntry 2703000 [1770375, -37515, 113] [1200000]]

def marikoCpuDvfsTable1581TbreakShipped : DvfsTable := dvfsTable
  [cvbEntry 204000 [732856, -17335, 113] [], cvbEntry 306000 [760024, -18195, 113] [],
   cvbEntry 408000 [789258, -19055, 113] [], cvbEntry 510000 [789258, -19055, 113] [],
   cvbEntry 612000 [853926, -20775, 113] [], cvbEntry 714000 [889361, -21625, 113] [],
   cvbEntry 816000 [926862, -22485, 113] [], cvbEntry 918000 [966431, -23345, 113] [],
   cvbEntry 1020000 [1008066, -24205, 113] [1120000],
   cvbEntry 1122000 [1008066, -24205, 113] [1120000],
   cvbEntry 1224000 [1008066, -24205, 113] [1120000],
   cvbEntry 1326000 [1008066, -24205, 113] [1120000],
   cvbEntry 1428000 [1008066, -24205, 113] [1120000],
   cvbEntry 1581000 [1274006, -28935, 113] [1120000],
   cvbEntry 1683000 [1329076, -29795, 113] [1120000],
   cvbEntry 1785000 [1386213, -30655, 113] [1120000],
   cvbEntry 1887000 [1445416, -31515, 113] [1120000],
   cvbEntry 1963500 [1490873, -32155, 113] [1120000],
   cvbEntry 2091000 [1580725, -33235, 113] [1200000],
   cvbEntry 2193000 [1580725, -33235, 113] [1200000],
   cvbEntry 2295000 [1635431, -34095, 113] [1200000],
   cvbEntry 2397000 [1702903, -34955, 113] [1200000],
   cvbEntry 2499000 [1736856, -35286, 113] [1200000],
   cvbEntry 2601000 [1787838, -35967, 113] [1200000],
   cvbEntry 2703000 [1838820, -36648, 113] [1200000]]

def marikoCpuDvfsTable1683TbreakShipped : DvfsTable := dvfsTable
  [cvbEntry 204000 [732856, -17335, 113] [], cvbEntry 306000 [760024, -18195, 113] [],
   cvbEntry 408000 [789258, -19055, 113] [], cvbEntry 510000 [789258, -19055, 113] [],
   cvbEntry 612000 [853926, -20775, 113] [], cvbEntry 714000 [889361, -21625, 113] [],
   cvbEntry 816000 [926862, -22485, 113] [], cvbEntry 918000 [966431, -23345, 113] [],
   cvbEntry 1020000 [1008066, -24205, 113] [1120000],
   cvbEntry 1122000 [1008066, -24205, 113] [1120000],
   cvbEntry 1224000 [1008066, -24205, 113] [1120000],
   cvbEntry 1326000 [1008066, -24205, 113] [1120000],
   cvbEntry 1428000 [1008066, -24205, 113] [1120000],
   cvbEntry 1581000 [1008066, -24205, 113] [1120000],
   cvbEntry 1683000 [1329076, -29795, 113] [1120000],
   cvbEntry 1785000 [1386213, -30655, 113] [1120000],
   cvbEntry 1887000 [1445416, -31515, 113] [1120000],
   cvbEntry 1963500 [1490873, -32155, 113] [1120000],
   cvbEntry 2091000 [1580725, -33235, 113] [1200000],
   cvbEntry 2193000 [1580725, -33235, 113] [1200000],
   cvbEntry 2295000 [1635431, -34095, 113] [1200000],
   cvbEntry 2397000 [1702903, -34955, 113] [1200000],
   cvbEntry 2499000 [1736856, -35286, 113] [1200000],
   cvbEntry 2601000 [1787838, -35967, 113] [1200000],
   cvbEntry 2703000 [1838820, -36648, 113] [1200000]]

def marikoCpuDvfsTableExtremeShipped : DvfsTable := dvfsTable
  [cvbEntry 204000 [732856, -17335, 113] [], cvbEntry 306000 [760024, -18195, 113] [],
   cvbEntry 408000 [789258, -19055, 113] [], cvbEntry 510000 [789258, -19915, 113] [],
   cvbEntry 612000 [789258, -19055, 113] [], cvbEntry 714000 [820558, -19915, 113] [],
   cvbEntry 816000 [853926, -20775, 113] [], cvbEntry 918000 [889361, -21625, 113] [],
   cvbEntry 1020000 [926862, -22485, 113] [1120000],
   cvbEntry 1122000 [926862, -22485, 113] [1120000],
   cvbEntry 1224000 [926862, -22485, 113] [1120000],
   cvbEntry 1326000 [966431, -23345, 113] [1120000],
   cvbEntry 1428000 [1008066, -24205, 113] [1120000],
   cvbEntry 1581000 [1051768, -25065, 113] [1120000],
   cvbEntry 1683000 [1097537, -25925, 113] [1120000],
   cvbEntry 1785000 [1145373, -26785, 113] [1120000],
   cvbEntry 1887000 [1195276, -27645, 113] [1120000],
   cvbEntry 1963500 [1274006, -29795, 113] [1120000],
   cvbEntry 2091000 [1349076, -33235, 113] [1200000],
   cvbEntry 2193000 [1386213, -33235, 113] [1200000],
   cvbEntry 2295000 [1445416, -34095, 113] [1200000],
   cvbEntry 2397000 [1490873, -34955, 113] [1200000],
   cvbEntry 2499000 [1580725, -35815, 113] [1200000],
   cvbEntry 2601000 [1702903, -36675, 113] [1200000],
   cvbEntry 2703000 [1775375, -37515, 113] [1200000]]

def eristaGpuDvfsTableShipped : DvfsTable := dvfsTable
  [cvbEntry 76800 [] [814294, 8144, -940, 808, -21583, 226],
   cvbEntry 115200 [] [856185, 8144, -940, 808, -21583, 226],
   cvbEntry 153600 [] [856185, 8144, -940, 808, -21583, 226],
   cvbEntry 192000 [] [898077, 8144, -940, 808, -21583, 226],
   cvbEntry 230400 [] [898077, 8144, -940, 808, -21583, 226],
   cvbEntry 268800 [] [939968, 8144, -940, 808, -21583, 226],
   cvbEntry 307200 [] [939968, 8144, -940, 808, -21583, 226],
   cvbEntry 345600 [] [981860, 8144, -940, 808, -21583, 226],
   cvbEntry 384000 [] [981860, 8144, -940, 808, -21583, 226],
   cvbEntry 422400 [] [1023751, 8144, -940, 808, -21583, 226],
   cvbEntry 460800 [] [1023751, 8144, -940, 808, -21583, 226],
   cvbEntry 499200 [] [1065642, 8144, -940, 808, -21583, 226],
   cvbEntry 537600 [] [1065642, 8144, -940, 808, -21583, 226],
   cvbEntry 576000 [] [1107534, 8144, -940, 808, -21583, 226],
   cvbEntry 614400 [] [1107534, 8144, -940, 808, -21583, 226],
   cvbEntry 652800 [] [1149425, 8144, -940, 808, -21583, 226],
   cvbEntry 691200 [] [1149425, 8144, -940, 808, -21583, 226],
   cvbEntry 729600 [] [1191317, 8144, -940, 808, -21583, 226],
   cvbEntry 768000 [] [1191317, 8144, -940, 808, -21583, 226],
   cvbEntry 806400 [] [1233208, 8144, -940, 808, -21583, 226],
   cvbEntry 844800 [] [1233208, 8144, -940, 808, -21583, 226],
   cvbEntry 883200 [] [1275100, 8144, -940, 808, -21583, 226],
   cvbEntry 921600 [] [1275100, 8144, -940, 808, -21583, 226]]

def eristaGpuDvfsTableSLTShipped : DvfsTable := dvfsTable
  [cvbEntry 76800 [] [814294, 8144, -940, 0, 0, 226],
   cvbEntry 115200 [] [856185, 8144, -940, 0, 0, 226],
   cvbEntry 153600 [] [856185, 8144, -940, 0, 0, 226],
   cvbEntry 192000 [] [908077, 8144, -940, 0, 0, 226],
   cvbEntry 230400 [] [908077, 8144, -940, 0, 0, 226],
   cvbEntry 268800 [] [934968, 8144, -940, 0, 0, 226],
   cvbEntry 307200 [] [934968, 8144, -940, 0, 0, 226],
   cvbEntry 345600 [] [952860, 8144, -940, 0, 0, 226],
   cvbEntry 384000 [] [952860, 8144, -940, 0, 0, 226],
   cvbEntry 422400 [] [978751, 8144, -940, 0, 0, 226],
   cvbEntry 460800 [] [978751, 8144, -940, 0, 0, 226],
   cvbEntry 499200 [] [990642, 8144, -940, 0, 0, 226],
   cvbEntry 537600 [] [990642, 8144, -940, 0, 0, 226],
   cvbEntry 576000 [] [1017534, 8144, -940, 0, 0, 226],
   cvbEntry 614400 [] [1017534, 8144, -940, 0, 0, 226],
   cvbEntry 652800 [] [1042425, 8144, -940, 0, 0, 226],
   cvbEntry 691200 [] [1042425, 8144, -940, 0, 0, 226],
   cvbEntry 729600 [] [1066317, 8144, -940, 0, 0, 226],
   cvbEntry 768000 [] [1066317, 8144, -940, 0, 0, 226],
   cvbEntry 806400 [] [1093208, 8144, -940, 0, 0, 226],
   cvbEntry 844800 [] [1093208, 8144, -940, 0, 0, 226],
   cvbEntry 883200 [] [1118100, 8144, -940, 0, 0, 226],
   cvbEntry 921600 [] [1118100, 8144, -940, 0, 0, 226],
   cvbEntry 960000 [] [1156991, 8144, -940, 0, 0, 226]]

def eristaGpuDvfsTableHiOPTShipped : DvfsTable := dvfsTable
  [cvbEntry 76800 [] [814294, 8144, -940, 0, 0, 226],
   cvbEntry 115200 [] [856185, 8144, -940, 0, 0, 226],
   cvbEntry 153600 [] [856185, 8144, -940, 0, 0, 226],
   cvbEntry 192000 [] [908077, 8144, -940, 0, 0, 226],
   cvbEntry 230400 [] [908077, 8144, -940, 0, 0, 226],
   cvbEntry 268800 [] [934968, 8144, -940, 0, 0, 226],
   cvbEntry 307200 [] [934968, 8144, -940, 0, 0, 226],
   cvbEntry 345600 [] [952860, 8144, -940, 0, 0, 226],
   cvbEntry 384000 [] [952860, 8144, -940, 0, 0, 226],
   cvbEntry 422400 [] [978751, 8144, -940, 0, 0, 226],
   cvbEntry 460800 [] [978751, 8144, -940, 0, 0, 226],
   cvbEntry 499200 [] [990642, 8144, -940, 0, 0, 226],
   cvbEntry 537600 [] [990642, 8144, -940, 0, 0, 226],
   cvbEntry 576000 [] [1017534, 8144, -940, 0, 0, 226],
   cvbEntry 614400 [] [1017534, 8144, -940, 0, 0, 226],
   cvbEntry 652800 [] [1042425, 8144, -940, 0, 0, 226],
   cvbEntry 691200 [] [1042425, 8144, -940, 0, 0, 226],
   cvbEntry 729600 [] [1066317, 8144, -940, 0, 0, 226],
   cvbEntry 768000 [] [1066317, 8144, -940, 0, 0, 226],
   cvbEntry 806400 [] [1093208, 8144, -940, 0, 0, 226],
   cvbEntry 844800 [] [1093208, 8144, -940, 0, 0, 226],
   cvbEntry 883200 [] [1118100, 8144, -940, 0, 0, 226],
   cvbEntry 921600 [] [1118100, 8144, -940, 0, 0, 226],
   cvbEntry 960000 [] [1156991, 8144, -940, 0, 0, 226],
   cvbEntry 998400 [] [1156991, 8144, -940, 0, 0, 226], cvbEntry 1036800 [] [],
   cvbEntry 1075200 [] []]

def marikoGpuDvfsTableShipped : DvfsTable := dvfsTable
  [cvbEntry 76800 [] [480000], cvbEntry 153600 [] [480000], cvbEntry 230400 [] [480000],
   cvbEntry 307200 [] [738712, -7304, -552, 119, -3750, -2],
   cvbEntry 384000 [] [758712, -7304, -552, 119, -3750, -2],
   cvbEntry 460800 [] [778712, -7304, -552, 119, -3750, -2],
   cvbEntry 537600 [] [798712, -7304, -552, 119, -3750, -2],
   cvbEntry 614400 [] [818712, -7304, -552, 119, -3750, -2],
   cvbEntry 691200 [] [838712, -7304, -552, 119, -3750, -2],
   cvbEntry 768000 [] [880210, -7955, -584, 0, -2849, 39],
   cvbEntry 844800 [] [926398, -8892, -602, -60, -384, -93],
   cvbEntry 921600 [] [970060, -10108, -614, -179, 1508, -13],
   cvbEntry 998400 [] [1065665, -16075, -497, -179, 3213, 9],
   cvbEntry 1075200 [] [1132576, -16093, -648, 0, 1077, 40]]

def marikoGpuDvfsTableSLTShipped : DvfsTable := dvfsTable
  [cvbEntry 76800 [] [480000], cvbEntry 153600 [] [480000], cvbEntry 230400 [] [480000],
   cvbEntry 307200 [] [738712, -7304, -552, 119, -3750, -2],
   cvbEntry 384000 [] [758712, -7304, -552, 119, -3750, -2],
   cvbEntry 460800 [] [778712, -7304, -552, 119, -3750, -2],
   cvbEntry 537600 [] [798712, -7304, -552, 119, -3750, -2],
   cvbEntry 614400 [] [818712, -7304, -552, 119, -3750, -2],
   cvbEntry 691200 [] [838712, -7304, -552, 119, -3750, -2],
   cvbEntry 768000 [] [880210, -7955, -584, 0, -2849, 39],
   cvbEntry 844800 [] [926398, -8892, -602, -60, -384, -93],
   cvbEntry 921600 [] [970060, -10108, -614, -179, 1508, -13],
   cvbEntry 998400 [] [1065665, -16075, -497, -179, 3213, 9],
   cvbEntry 1075200 [] [1132576, -16093, -648, 0, 1077, 40],
   cvbEntry 1152000 [] [1180029, -14534, -830, 0, 1469, 110],
   cvbEntry 1228800 [] [1238293, -16383, -859, 0, 3722, 313]]

def marikoGpuDvfsTableHiOPTShipped : DvfsTable := dvfsTable
  [cvbEntry 76800 [] [480000], cvbEntry 153600 [] [480000], cvbEntry 230400 [] [480000],
   cvbEntry 307200 [] [738712, -7304, -552, 119, -3750, -2],
   cvbEntry 384000 [] [758712, -7304, -552, 119, -3750, -2],
   cvbEntry 460800 [] [778712, -7304, -552, 119, -3750, -2],
   cvbEntry 537600 [] [798712, -7304, -552, 119, -3750, -2],
   cvbEntry 614400 [] [818712, -7304, -552, 119, -3750, -2],
   cvbEntry 691200 [] [838712, -7304, -552, 119, -3750, -2],
   cvbEntry 768000 [] [880210, -7955, -584, 0, -2849, 39],
   cvbEntry 844800 [] [926398, -8892, -602, -60, -384, -93],
   cvbEntry 921600 [] [970060, -10108, -614, -179, 1508, -13],
   cvbEntry 998400 [] [1060665, -16075, -497, -179, 3213, 9],
   cvbEntry 1075200 [] [1061475, -12688, -648, 0, 1077, 40],
   cvbEntry 1152000 [] [1094475, -12688, -648, 0, 1077, 40],
   cvbEntry 1228800 [] [1124475, -12688, -648, 0, 1077, 40],
   cvbEntry 1267200 [] [1142060, -12688, -648, 0, 1077, 40],
   cvbEntry 1305600 [] [1163644, -12688, -648, 0, 1077, 40], cvbEntry 1344000 [] [0, 0, 0, 0, 0, 0],
   cvbEntry 1382400 [] [0, 0, 0, 0, 0, 0], cvbEntry 1420800 [] [0, 0, 0, 0, 0, 0],
   cvbEntry 1459200 [] [0, 0, 0, 0, 0, 0], cvbEntry 1497600 [] [0, 0, 0, 0, 0, 0],
   cvbEntry 1536000 [] [0, 0, 0, 0, 0, 0]]

def deactivatedGpuFreq : Word := 2000

/-- `C`. -/
def shipped : CustomizeTable :=
  { commonEmcMemVolt := 1175000
    eristaEmcMaxClock := 1600000
    eristaEmcMaxClock1 := 1600000
    eristaEmcMaxClock2 := 1600000
    marikoEmcMaxClock := 1866000
    marikoEmcVddqVolt := 600000
    emcDvbShift := 0
    eristaCpuUV := 0
    eristaCpuVmin := 800
    eristaCpuMaxVolt := 1200
    eristaCpuUnlock := 0
    marikoCpuUVLow := 0
    marikoCpuUVHigh := 0
    tableConf := tbreak1683
    marikoCpuLowVmin := 620
    marikoCpuHighVmin := 750
    marikoCpuMaxVolt := 1120
    marikoCpuMaxClock := 1963500
    eristaCpuBoostClock := 1785000
    marikoCpuBoostClock := 1963500
    eristaGpuUV := 0
    eristaGpuVmin := 810
    marikoGpuUV := 0
    marikoGpuVmin := 610
    marikoGpuVmax := 800
    commonGpuVoltOffset := 0
    eristaGpuVoltArray := .ofFn fun index => if index < 23 then 0 else deactivatedGpuFreq
    marikoGpuVoltArray := .ofFn fun index => if index < 16 then 0 else deactivatedGpuFreq
    fineTune_t6_tRTW := 0
    fineTune_t7_tWTR := 0
    reserved := .replicate 60 0
    eristaCpuDvfsTable := eristaCpuDvfsTableShipped
    eristaCpuDvfsTableSLT := eristaCpuDvfsTableSLTShipped
    marikoCpuDvfsTable := marikoCpuDvfsTableShipped
    marikoCpuDvfsTableSLT := marikoCpuDvfsTableSLTShipped
    marikoCpuDvfsTable1581Tbreak := marikoCpuDvfsTable1581TbreakShipped
    marikoCpuDvfsTable1683Tbreak := marikoCpuDvfsTable1683TbreakShipped
    marikoCpuDvfsTableExtreme := marikoCpuDvfsTableExtremeShipped
    eristaGpuDvfsTable := eristaGpuDvfsTableShipped
    eristaGpuDvfsTableSLT := eristaGpuDvfsTableSLTShipped
    eristaGpuDvfsTableHiOPT := eristaGpuDvfsTableHiOPTShipped
    marikoGpuDvfsTable := marikoGpuDvfsTableShipped
    marikoGpuDvfsTableSLT := marikoGpuDvfsTableSLTShipped
    marikoGpuDvfsTableHiOPT := marikoGpuDvfsTableHiOPTShipped }

end HorizonOc.Loader
