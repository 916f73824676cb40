import Sketchbook.Syntax.Table

/-!
The automaton of the sketch grammar, as numbers. A row is written as its changes to an earlier row:
its lowest 11 bits are one more than the number of that row, or zero for the empty row, and each
further 20 bits are a change, one more than the column in 9 bits and the entry in 11. A set of
actions is written with 29 bits for an action above one bit that says whether a token lexed in
another state can be kept. `Sketchbook.Syntax.Automaton` reads all of this.
-/
namespace Sketchbook.Syntax.ActionTable

/-- For each state its row of actions, its row of successors and where its lexer starts, in 11, 11 and 8 bits. -/
def states : Table Nat := ⟨[
  [0, 2049, 4098, 4099, 6148, 8197, 10246, 10247, 12296, 10249, 14346, 10250, 10251, 16396, 10253,
    18446, 20495, 22543, 24591, 26639, 28687, 30735, 32783, 34831, 36879, 38927, 40975, 43023, 45071,
    47119, 49167, 51215],
  [53263, 55311, 57359, 59407, 61455, 63503, 65551, 67599, 69647, 71695, 73743, 75791, 77839,
    79887, 81936, 83984, 86032, 88080, 90128, 92176, 94224, 96272, 98320, 100368, 102416, 104464,
    106512, 108560, 110608, 112656, 114704, 116752],
  [118800, 120848, 122896, 124944, 126992, 129040, 131088, 133136, 135184, 137232, 139280, 141328,
    143374, 145422, 147470, 149518, 151566, 153614, 155662, 157710, 159758, 161806, 163854, 165902,
    167950, 169998, 172046, 174094, 176142, 178190, 180238, 182286],
  [184334, 186382, 188430, 190478, 192526, 194574, 196622, 198670, 200718, 202766, 574824465,
    583008274, 583008275, 583008276, 583008277, 583008278, 583008279, 583008280, 583008281, 650323994,
    650326043, 650328090, 650330140, 650332189, 650334238, 583008287, 583008288, 574838817, 574840866,
    574842915, 574844964, 574847013],
  [574849062, 574851111, 574853160, 574853161, 574851114, 43, 43, 574855212, 574857261, 574859310,
    574859311, 574861357, 574853165, 574863405, 574865456, 574867505, 574869554, 574859314, 574871603,
    574873652, 574875701, 574877750, 260151, 262200, 574883897, 574885946, 574887995, 270396,
    574892093, 574894142, 574896191, 574898240],
  [574900289, 574902338, 574904387, 574906436, 574908485, 574910534, 574877767, 574888008,
    574912585, 574914634, 574916683, 574918732, 574920781, 574922830, 574924879, 574926928, 574928977,
    574931026, 574933075, 574935124, 574937173, 574939222, 574941271, 574943320, 574945369, 574947418,
    574949467, 574951516, 574953565, 574955614, 574957663, 574959712],
  [574961761, 574963809, 574965857, 574967905, 574969953, 574972001, 574974049, 574976097,
    574978145, 574980193, 574982241, 574984289, 574986337, 574988385, 574990433, 574992481, 574994529,
    574996577, 574998625, 575000673, 575002721, 385122, 575006817, 575008865, 575010913, 574877793,
    575012961, 575015009, 574888033, 575017059, 575019105, 575021153],
  [575023201, 575025251, 575027299, 575029347, 575031395, 575033443, 575035491, 575037539,
    575039587, 575041635, 575043683, 575045731, 575047779, 575049827, 575051875, 575053921, 575055971,
    575058019, 575060065, 575062113, 575064161, 575066209, 575068257, 575070305, 575072353, 650571876,
    650571877, 102, 103, 104, 650573929, 650571881],
  [106, 107, 108, 109, 110, 111, 112, 113, 114, 115, 116, 117, 118, 119, 120, 121, 122, 123, 124,
    125, 126, 127, 128, 129, 130, 131, 130, 130, 132, 133, 134, 135],
  [136, 137, 138, 139, 140, 141, 142, 143, 143, 143, 144, 145, 146, 147, 148, 149, 150, 151, 151,
    152, 152, 151, 153, 154, 155, 156, 157, 158, 159, 160, 160, 161],
  [162, 163, 163, 163, 164, 165, 164, 164, 166, 167, 168, 168, 168, 169, 170, 170, 171, 172, 173,
    173, 174, 175, 176, 177, 178, 179, 179, 180, 180, 179, 181, 181],
  [182, 182, 182, 183, 184, 184, 184, 184, 184, 185, 186, 186, 187, 188, 189, 190, 191, 191, 191,
    191, 191, 192, 191, 191, 193, 194, 195, 195, 195, 195, 195, 196],
  [195, 197, 197, 197, 198, 458951, 200, 201, 202, 203, 204, 205, 206, 207, 208, 209, 210, 211,
    212, 650117333, 575080662, 575082711, 658505944, 658505944, 465113, 467162, 469211, 467164,
    467165, 575090910, 575092959, 575092960],
  [475361, 477410, 575099107, 477412, 575099109, 575090918, 575099111, 575090920, 575090921,
    575101162, 483563, 485612, 485613, 575107310, 575109359, 575111408, 671582449, 671582450,
    574619891, 574619892, 574619893, 575090934, 671584503, 671584504, 574619897, 575117562, 575117563,
    575119612, 671590653, 575090942, 575107327, 575117568],
  [671592705, 671594754, 671596803, 671598852, 671600901, 574619910, 574619911, 575107336,
    671088905, 671602954, 671088907, 671088908, 671088909, 671088910, 671088911, 671088912, 671605009,
    574619922, 650635539, 671609108, 277, 671088918, 574619927, 671088920, 671088921, 574619930,
    671088923, 671088924, 671088925, 671088926, 671088927, 671088928],
  [650639649, 671613218, 671615267, 650645796, 650647844, 671559973, 671088934, 532775, 671623464,
    671625513, 671627562, 671629611, 671631658, 671633707, 671576364, 671635757, 671637806, 671639853,
    671641902, 671643951, 671646000, 671578417, 671580466, 559411, 559412, 675283253, 671088950,
    675283255, 671088952, 675283257, 671088954, 671088955],
  [671088956, 671088957, 671088958, 671088959, 671088960, 671088961, 322, 671088963, 671088964,
    671088965, 671088966, 671088967, 328, 671088969, 671088970, 671088971, 671088972, 671088973,
    671088974, 671088975, 671088975, 671088976, 671088977, 671088977, 338, 671088979, 671088980,
    671088981, 671088982, 671088983, 671088984, 671088983],
  [671088985, 671088985, 671088984, 671088986, 671088986, 347, 348, 349, 350, 671088991, 671088992,
    671088993, 671088994, 671088993, 671088994, 355, 356, 357, 356, 358, 359, 671089000, 671089001,
    671089002, 671089003, 364, 365, 366, 671089007, 671089008, 369, 671089010],
  [671089011, 671560052, 671089013, 561526, 563575, 376, 377, 575185274, 675850619, 675850620,
    671576445, 671089022, 671089023, 671089024, 671089024, 671089025, 671089026, 575189379, 671089028,
    671089029, 671089030, 671089031, 671089032, 671089033, 671089034, 671089035, 671089036, 671089037,
    671089038, 399, 400, 401],
  [401, 402, 402, 403, 404, 671089045, 671089046, 671089047, 671089048, 671089049, 671089050,
    671089051, 671089052, 671089053, 671089054, 671089055, 671089056, 671089057, 671660450, 671662499,
    650693028, 650695077, 650693030, 650117543, 671668648, 671089065, 575201706, 675283371, 671089068,
    575203757, 675283374, 671089071],
  [671089072, 671089073, 671089074, 671089075, 671089076, 671089077, 671089078, 671089079,
    671089080, 671089081, 671089082, 671089083, 671089084, 671089085, 574620094, 574620094, 574620095,
    675869120, 671676865, 650707394, 671680963, 671089092, 671683013, 671685062, 671687111, 671689160,
    671691209, 671693258, 575226315, 671697356, 671699405, 671701454],
  [650117583, 650117584, 650117585, 650117586, 671089107, 675897812, 671705557, 671707606,
    671709655, 671711704, 671713753, 671715802, 671717851, 671719900, 671721949, 671723998, 671726047,
    671728096, 671730145, 671732194, 671734243, 671736292, 671738341, 671740390, 575273447, 671089128,
    675938793, 575277546, 675283435, 675283436, 575279597, 709499374],
  [675283439, 675283440, 671089137, 650781170, 671089139, 671089140, 650783221, 671089142,
    671089143, 671089144, 671089145, 650117626, 675951099, 574620156, 574620157, 574620158, 574620159,
    675283456, 675283457, 671089154, 709507587, 575291908, 671089157, 671089158, 671089159, 671089160,
    675283465, 675283466, 671089163, 575293964, 575296012, 575298060],
  [671089165, 671089166, 671089167, 671089168, 671089169, 671089170, 709517827, 671089171,
    671089172, 671089173, 671089174, 671089175, 671089176, 671089177, 671089178, 671089179, 671089180,
    671089181, 671089182, 671089183, 671089184, 671089185, 671089186, 671089187, 671089188, 671089189,
    671089190, 671089191, 675283496, 575302185, 675283498, 575304204],
  [575306252, 575308300, 575310348, 575312396, 575314444, 575316492, 675283499, 575318572,
    575291949, 575320620, 650820142, 575324716, 575326764, 575328815, 575330828, 575332876, 575291916,
    575334960, 709554737, 575339058, 575341068, 575343155, 575330868, 575345202, 575273525, 575347212,
    575349298, 575351350, 575353394, 575355442, 575357495, 575359544],
  [575361593, 575363642, 575365676, 575367738, 709587515, 575371836, 575373885, 575375930,
    575377978, 575380030, 575382079, 575384128, 575386177, 575388226, 575390275, 575392324, 575394373,
    575396422, 575287879, 575091272, 575398458, 575400521, 575402570, 575404619, 575406668, 676072013,
    575410764, 575412814, 575414862, 575416911, 575408720, 574620241],
  [575418959, 575421010, 574620243, 676072020, 575423055, 575425103, 575427154, 575429202,
    574620245, 575431250, 575404630, 575433295, 575435343, 575437391, 575439447, 575441496, 575443543,
    575445592, 574620249, 575447639, 575449688, 575451735, 575453784, 575455834, 575457883, 575459932,
    575461981, 575464030, 575466079, 575468125, 575470176, 575472225],
  [575474274, 575476323, 575474276, 575128165, 575478365, 575480413, 575461990, 575482471,
    575468134, 575464040, 575464041, 575484522, 575486571, 575488620, 575128173, 575490670, 575492719,
    575478374, 575480422, 575464048, 575494769, 575496818, 575498867, 575455860, 575500917, 575502966,
    575505015, 575507064, 718115449, 575511162, 718119547, 575408764],
  [575515261, 718119550, 575517309, 575519346, 575521394, 575523455, 575523456, 575525505,
    575527554, 675283587, 575529604, 575531653, 575533702, 575535751, 575537800, 575539849, 575541898,
    575543947, 575545996, 575548045, 574620302, 574620303, 575550096, 575552145, 575554194, 575556243,
    575558292, 575560341, 575562390, 575564439, 575566488, 575568537],
  [575570586, 575556251, 575572632, 575574682, 575576732, 575578781, 574620318, 574620319,
    575580829, 574620320, 575582881, 965282, 574620323, 575582884, 967333, 574620326, 760138407,
    760140456, 717226665, 575277738, 575593131, 575595180, 575597229, 760140462, 575595183, 575599280,
    575601329, 575277746, 575277747, 575603376, 575605428, 574620341],
  [575607472, 575609521, 575595190, 575605431, 575611568, 575613624, 574620345, 574620346,
    574620347, 574620348, 574620349, 574620349, 574620349, 574620350, 574620351, 574620352, 574620353,
    574620354, 574620355, 717226692, 575615685, 575617734, 575595207, 575277768, 575277769, 575595210,
    575595211, 575619788, 676285133, 1004238, 1006287, 720],
  [488145, 722, 676291283, 1010382, 1012431, 1014478, 1016527, 1018580, 1020622, 1022671, 1024718,
    1026767, 1028821, 1030870, 575652567, 1034958, 1037007, 575658712, 1041113, 575662810, 575664859,
    1047260, 1049309, 676334302, 575673055, 1055456, 575677153, 738, 575679203, 676344548, 575683301,
    575685350],
  [575687399, 575689439, 1071840, 575693544, 759169769, 676358890, 575697643, 575699692, 575701733,
    575703781, 749, 575705830, 575707879, 575709925, 575711974, 575714023, 575716078, 1098479,
    676383472, 575722219, 575658737, 575724261, 575726322, 755, 756, 575728357, 575730405, 575732454,
    575734503, 1039093, 676383478, 574199],
  [574620408, 761, 1116922, 575738597, 763, 1121020, 1123069, 1125118, 767, 1127168, 769, 770, 771,
    772, 1129221, 1131270, 676416263, 1135368, 1137417, 1139466, 1141515, 1143564, 575765261, 1147662,
    676432655, 676434704, 1153809, 786, 1155859, 1157896, 575779604, 1162005],
  [1141526, 1143575, 575765272, 1147673, 1164058, 575765275, 676432668, 676449053, 1168145,
    1170193, 574620446, 1172255, 1174304, 1176353, 575798036, 1180450, 1032995, 1182481, 574620452,
    1162021, 806, 1184520, 1147687, 676449064, 594729, 1186577, 574620458, 1172267, 1174316, 1188653,
    1190702, 574620463],
  [574620464, 817, 1192754, 1194769, 675283763, 1196852, 574620469, 574620470, 1198903, 1198904,
    1200953, 1190714, 827, 828, 829, 1203006, 1196863, 1198912, 1198913, 1198914, 1198915, 1200964,
    837, 1203014, 1205063, 1198920, 1198921, 1207114, 1207115, 1209164, 575830861, 1198926],
  [847, 1207120, 849, 1209170, 575832915, 676498260, 676449109, 1217366, 575726423, 1190744,
    1219417, 1190746, 1143643, 1198940, 1198941, 1198942, 1198943, 1198944, 1198945, 1198946, 1198947,
    1198948, 1198949, 1198950, 1198951, 1198952, 1198953, 1198954, 1198955, 1174380, 1174381,
    1221486],
  [1223534, 574620527, 574620528, 1225582, 881, 882, 1227635, 1229684, 1231733, 886, 887, 1233784,
    889, 890, 675283835, 1235836, 1237884, 1153917, 1239934, 1241966, 1244020, 895, 1246080, 1248129,
    1250178, 574620547, 508804, 1252216, 1254273, 901, 902, 903],
  [904, 905, 906, 574620555, 908, 909, 675283854, 675283855, 675283856, 1168253, 1256316, 1258364,
    1170301, 574620561, 1260414, 1262462, 1264510, 914, 915, 1266558, 574620564, 1268610, 1270658,
    1272701, 1182589, 1274750, 1276800, 1278849, 1280898, 917, 918, 919],
  [920, 675283865, 675283866, 675283867, 1186685, 574620572, 1282973, 1284990, 1287038, 1289086,
    926, 927, 928, 574620577, 1291134, 1293186, 930, 1194877, 1295230, 1297278, 1299326, 1301374,
    1303426, 1305474, 931, 932, 1307549, 574620581, 574620582, 1309566, 935, 1311605],
  [936, 937, 938, 939, 940, 1313661, 941, 1315710, 1317758, 1319806, 1321854, 1323906, 942,
    1325949, 943, 944, 945, 1327998, 1330045, 946, 1332078, 1334126, 1336174, 1338222, 574620595,
    574620596, 949, 574620598, 574620599, 574620600, 953, 954],
  [955, 574620604, 957, 958, 574620607, 574620608, 574620609, 574620610, 574620611, 964, 574620613,
    966, 574620615, 968, 969, 574620618, 971, 972, 973, 974, 975, 574620624, 977, 978, 979, 980, 981,
    982, 983, 984, 574620633, 986],
  [987, 988, 989, 990, 991, 992, 993, 994, 995, 996, 997, 998, 999, 1000, 1001, 1002, 1003, 1004,
    1005, 1006, 1007, 1008, 1009, 1010, 1011, 1012, 1013, 1014, 1015, 1016, 1017, 1018],
  [574620667, 1020, 1021, 1022, 1023, 574620672, 1025, 1026, 1027]]⟩

def sets : Table Nat := ⟨[
  [7, 12, 2217, 8210, 8211, 15106, 14275, 1843, 14931, 3074, 8050, 3075, 3091, 12498, 20882, 18930,
    131, 4099, 3106, 242, 18946, 18962, 18978, 2354, 1698, 9266, 3122, 16210, 18994, 20898, 14450,
    7250],
  [6802, 2130, 14466, 14290, 20914, 6418, 8051, 7266, 20931, 20946, 11538, 11554, 12226, 8226,
    19010, 6738, 10409, 0x402800051a8, 0x402800051a9, 0x760800051a8, 0x6f8800051a9, 0xe6800051a9,
    0x74a800051a9, 0x180800051a8, 0x3ee800051a8, 0x180800051a9, 0x182800051a9, 0x61a800051a8,
    0xa32800051a8, 0x93e800051a8, 0x10800051a9, 0x200800051a9],
  [0x184800051a8, 0x1e800051a8, 0x940800051a8, 0x942800051a8, 0x944800051a8, 0x126800051a8,
    0xd4800051a8, 0x486800051a8, 0x186800051a8, 0x7ea800051a8, 0x946800051a8, 0xa34800051a8,
    0x70e800051a8, 0x38a800051a8, 0x352800051a8, 0x10a800051a8, 0x710800051a8, 0x6fa800051a8,
    0xa36800051a8, 0x322800051a8, 0x3ee800051a9, 0x38c800051a8, 0xa38800051a9, 0xa3a800051a8,
    0x5a2800051a8, 0x5a4800051a8, 0x5f8800051a8, 0x404800051a8, 0x948800051a8, 0x34a800051a8, 20905,
    11017],
  [11016, 20802, 20818, 22130, 6434, 6770, 8979, 10515, 10034, 16882, 0x40280005278, 0x40280005279,
    0x76080005278, 0x6f880005279, 21113, 0xe680005279, 0x18080005278, 0x3ee80005278, 0x18080005279,
    0x18280005279, 0x61a80005278, 0xa3280005278, 0x93e80005278, 0x1080005279, 0x20080005279,
    0x18480005278, 0x1e80005278, 0xa2880005278, 0x94280005278, 0x94480005278, 0x12680005278,
    0xd480005278],
  [0x48680005278, 0x18680005278, 0x7ea80005278, 0xa2a80005278, 0xace80005278, 0x70e80005278,
    0x38a80005278, 0x35280005278, 0x10a80005278, 0x71080005278, 0x6fa80005278, 0xa3680005278,
    0x32480005278, 0x3ee80005279, 0x38c80005278, 0xa3880005279, 0xa3a80005278, 0x5a280005278,
    0x5a480005278, 0x5f880005278, 0x40480005278, 0x94880005278, 0x34e80005278, 21112, 19209, 19208,
    1747, 1795, 9139, 9187, 4035, 4051],
  [20834, 20850, 22146, 6786, 0xe640403199, 4207000, 4207001, 0x18040403198, 0x18240403199, 2146,
    14803, 6610, 20264, 20265, 28456, 28457, 19368, 19369, 27144, 27145, 46164712, 46164713, 27560,
    27561, 19192, 19193, 27384, 27385, 14947, 10050, 14787, 6450],
  [10051, 6626, 6642, 2435, 2947, 3011, 10552, 10553, 0x57300002938, 0x57300002939, 11160, 11161,
    8579, 1987, 7122, 16771, 21603, 10771, 11491, 8643, 21491, 2051, 10003, 20226, 6754, 16963, 17027,
    10131, 1875, 3842, 3843, 3859],
  [6690, 9059, 9171, 6722, 6994, 4163, 8099, 10163, 25193560, 25193561, 21218, 19266, 46165160,
    46165161, 2499, 2531, 10211, 46173352, 46173353, 323, 2563, 339, 371, 387, 2627, 419, 483, 499,
    627, 7363, 7395, 803],
  [819, 851, 867, 899, 963, 979, 1107, 1283, 1299, 1331, 1347, 1379, 1443, 1459, 1587, 2691, 2707,
    2739, 2787, 2819, 2835, 2867, 2915, 21144, 21145, 0xa5c80005298, 3155, 21555, 12786, 13106, 21683,
    209759336],
  [209759337, 11656, 11657, 19448, 19449, 19464, 19465, 19480, 19481, 19384, 19385, 41971352,
    41971353, 27608, 27609, 46165224, 46165225, 27640, 27641, 27656, 27657, 27672, 27673, 27688,
    27689, 46165048, 46165049, 27720, 27721, 41971096, 41971097, 28200],
  [28201, 28216, 28217, 41971288, 41971289, 41971640, 41971641, 41971704, 41971705, 27592, 27593,
    29032, 29033, 75533976, 75533977, 79728280, 79728281, 19608, 19609, 25201752, 25201753, 88116632,
    88116633, 19880, 19881, 36408, 36409, 20072, 20073, 75533912, 75533913, 75534248],
  [75534249, 20424, 20425, 20504, 20505, 75534328, 75534329, 88116888, 88116889, 88116824,
    88116825, 88117176, 88117177, 88117240, 88117241, 37224, 37225, 36392, 36393, 121679512,
    121679513, 125873816, 125873817, 130068120, 130068121, 43992, 43993, 25209832, 25209833, 46181544,
    46181545, 44248],
  [44249, 28072, 28073, 44600, 44601, 28264, 28265, 125874088, 125874089, 28616, 28617, 28696,
    28697, 125874168, 125874169, 142651032, 142651033, 146845336, 146845337, 142650968, 142650969,
    142651304, 142651305, 142651384, 142651385, 151039384, 151039385, 163630744, 163630745, 167825048,
    167825049, 172019352],
  [172019353, 176213240, 176213241, 52792, 52793, 36456, 36457, 167825320, 167825321, 167825400,
    167825401, 188796568, 188796569, 192990872, 192990873, 197185176, 197185177, 192991144, 192991145,
    192991224, 192991225, 205581976, 205581977, 213970168, 213970169, 44648, 44649, 226553496,
    226553497, 230747800, 230747801, 234942104],
  [234942105, 230748072, 230748073, 230748152, 230748153, 243338488, 243338489, 243338504,
    243338505, 52840, 52841, 247533208, 247533209, 251735288, 251735289, 251735304, 251735305,
    260132088, 260132089, 268528888, 268528889, 21096, 21097, 0x11c80005268, 0x9a280005268, 20856,
    20857, 25186680, 25186681, 27864, 27865, 306],
  [29048, 29049, 46166392, 46166393, 786, 239103864, 239103865, 33591160, 33591161, 255897464,
    255897465, 264294264, 264294265, 13160, 13161, 1859, 6514, 6498, 20786, 7762, 9234, 1715, 6547,
    9282, 21330, 13234, 1731, 6579, 11897, 6595, 21337, 0x74a80005359],
  [0x3ee80005358, 0xa3280005358, 0x1080005359, 0x33680005359, 0x70e80005358, 0x48880005358,
    0xa3680005358, 0x3ee80005359, 0xa6a80005358, 0xa3880005359, 0xa3a80005358, 0x5a280005358,
    0x5a480005358, 0x5f880005358, 0x67680005358, 20089, 10712, 0x522400029d8, 10713, 0x100611000029d9,
    0xed08100611000029d9, 8401033, 2371, 3170, 3171, 2291, 8401032, 0x14b48100611000029d9,
    0x100611000029d8, 0xed08100611000029d8, 14835, 0xa5a400029d9],
  [4707, 6675, 11170, 5123, 6707, 0x124400029d9, 2067, 3602, 3603, 21433, 0x74a800053b9,
    0x3ee800053b8, 0xa32800053b8, 0x346800053b9, 0x70e800053b8, 0xa36800053b8, 0x3ee800053b9,
    0xa6a800053b8, 0xa38800053b9, 0xa3a800053b8, 0x5a2800053b8, 0x5a4800053b8, 0x5f8800053b8,
    0x574800053b8, 290, 2115, 770, 1250, 17170, 4691, 6835, 5107],
  [6851, 21417, 0x3ee800053a8, 0xa32800053a8, 0x358800053a9, 0x70e800053a8, 0xa36800053a8,
    0x3ee800053a9, 0xa38800053a9, 0xa3a800053a8, 0x5a2800053a8, 0x5a4800053a8, 0x5f8800053a8,
    0x574800053a8, 54553160, 54553161, 54569544, 54569545, 10968, 10969, 21987, 21048, 21049,
    0xabc80005239, 0x73880005239, 35432, 35433, 20632, 20633, 12408, 12409, 0x54a40803088],
  [10195, 15683, 2178, 27112, 27113, 2659, 29387240, 29387241, 12424, 12425, 15699, 35304, 35305,
    62949864, 62949865, 14499, 16274, 9719993, 9719992, 1331385, 1331384, 19113, 19112, 27305, 27304,
    29240, 29241, 35497, 35496, 0x54a40003088, 21000, 21001],
  [0x1b280005209, 0x73880005209, 83914633, 83914632, 58749096, 58749097, 62943400, 62943401,
    96506024, 96506025, 104894632, 104894633, 12504, 12505, 12520, 12521, 20680, 20681, 14995, 27000,
    27001, 9586, 35192, 35193, 9618, 12602665, 12602664, 1971, 21235, 33581624, 33581625, 6531],
  [37775928, 37775929, 67144248, 67144249, 71338552, 71338553, 109095480, 109095481, 113289784,
    113289785, 155241016, 155241017, 159435320, 159435321, 11945, 11944, 8066, 8067, 21353,
    0x3f080005368, 21352, 0x70e80005368, 0x3f080005369, 19080, 19081, 27272, 27273, 27128, 27129,
    35464, 35465, 35320],
  [35321, 10440, 10441, 10456, 10457, 3363, 12963, 16291, 10792, 10793, 0x66d000031f8, 12792,
    18664, 18665, 18680, 18681, 16796280, 16796281, 26856, 26857, 26872, 26873, 50359609, 50359608,
    27288, 27289, 27224, 27225, 27176, 27177, 2255384, 2255385],
  [35144, 35145, 33589816, 33589817, 37784120, 37784121, 29395432, 29395433, 19785, 19784,
    92310136, 92310137, 35480, 35481, 43336, 43337, 3907, 13075, 20584, 20585, 67152440, 67152441,
    71346744, 71346745, 43496, 43497, 62958056, 62958057, 20281, 20280, 117461385, 117461384],
  [25186121, 25186120, 27977, 27976, 134261368, 134261369, 28776, 28777, 109103672, 109103673,
    113297976, 113297977, 41972105, 41972104, 46165833, 46165832, 20329, 20328, 28569, 28568, 36169,
    36168, 184601208, 184601209, 36968, 36969, 155249208, 155249209, 159443512, 159443513, 201363273,
    201363272],
  [36761, 36760, 28521, 28520, 222358136, 222358137, 45160, 45161, 36713, 36712, 28713, 28712,
    36905, 36904, 9490, 7618, 7634, 7650, 7106, 21139, 0xa5280005239, 18872, 18873, 18888, 18889,
    46164360, 46164361, 26984, 26985, 9443, 19288, 19289],
  [100698488, 100698489, 138455416, 138455417, 19304, 19305, 27496, 27497, 35688, 35689, 12627929,
    12627928, 83939289, 83939288, 12636121, 12636120, 83947481, 83947480, 12644313, 12644312,
    83955673, 83955672, 3186, 3202, 3203, 3219, 3235, 3251, 3266, 3283, 3282, 3298],
  [3315, 3331, 3330, 9331, 3347, 26969, 43433, 0x96d00004a89, 0x96d00004a88, 19241, 3618, 3634,
    3635, 3651, 3667, 3683, 3698, 3715, 3714, 3730, 3747, 3763, 3762, 3795, 3891, 3539, 10082, 10083,
    2019, 22019, 0x4ec80005368, 0x73880005369],
  [0x4ec80005369, 3443, 3827, 2035, 22099, 11625, 9635, 13714, 21017, 13059, 8083, 15811, 3427,
    2515, 4643, 17651, 6563, 15026, 8131, 28745, 8867, 2195, 355, 3571, 403, 451, 467, 547, 595, 611,
    707, 7347],
  [835, 883, 931, 947, 1027, 1075, 1091, 1187, 1315, 1363, 1411, 1427, 1507, 1555, 1571, 1667,
    2979, 3043, 21154, 13746, 13331, 19138, 14130, 3395, 4211, 15170, 0x73a800051f9, 20984, 20985,
    21058, 21074, 21090],
  [21107, 21122, 13250, 21193, 5459, 36041, 5779, 21465, 19337, 44233, 21209, 0x66d000031f9, 15202,
    4179, 21186, 14498, 14530, 1763, 4275, 4291, 4323, 16451, 3459, 6963, 8163, 4963, 2547, 2595,
    8195, 2611, 2643, 515],
  [643, 15667, 3811, 9219, 995, 1123, 1475, 1603, 2723, 2755, 2771, 2803, 2851, 2883, 2899, 2931,
    21155, 13762, 15907, 13922, 13538, 13954, 13570, 19842, 16002, 13698, 20242, 16114, 7314, 14098,
    13618, 14114],
  [13650, 13970, 13986, 19218, 15826, 12626, 6946, 21250, 6882, 13411, 19602, 15922, 19650, 15954,
    20034, 16034, 18306, 9202, 22034, 8018, 0x76c40003088, 11465, 18018, 11400, 13491, 20578, 19394,
    7459, 15171, 21161, 21160, 28345],
  [28344, 36537, 36536, 2387, 15203, 12793, 19522, 21314, 20983897, 4611, 13811, 14579, 14595,
    14611, 14627, 14658, 20146, 5027, 20514, 21257, 0x6be80005309, 0x71e80005309, 0x72080005309,
    0x72280005309, 0x72480005309, 0x76c40003089, 21763, 21827, 19507, 20992265, 6978, 6898],
  [21272, 0x72880005318, 2259, 9683, 9699, 9250, 8034, 8322, 15138, 3874, 14306, 6, 14514, 19106,
    8370, 14354, 12307, 11731, 11747, 20936, 0x764800051c8, 0x1e4800051c8, 0x702800051c8, 19592,
    0x696800052a9, 7794, 19090, 17362, 19282, 19426, 1811, 2163],
  [19731, 17746, 17906, 17922, 20162, 20178, 21714, 11736, 13080, 16978, 16994, 17010, 20770,
    19826, 18434, 18466, 10066, 10482, 10466, 10146, 11763, 6659, 19442, 20562, 16243, 20761, 28953,
    37145, 1827, 2275, 20983433, 45337],
  [21065, 0x11c80005249, 0x9a280005249, 12603017, 53529, 8306, 15123, 3138, 15122, 8354, 15219,
    15218, 10504, 16339, 11203, 21283, 11219, 20920, 0x76e800051b9, 0x188800051b8, 0x76e800051b8,
    2467, 11267, 11283, 11705, 3523, 21081, 0x10e80005259, 0x9a280005259, 27433, 28105, 28137],
  [28153, 28169, 36297, 44521, 44537, 44569, 52713, 52729, 52761, 26904, 7507, 7539, 0x738800051f9,
    7555, 7587, 22067, 2675, 21219, 19267, 10937, 12339, 20992089, 19129, 5059, 11315, 16797321,
    11363, 0x1ae80005219, 0x60a80005399, 21401, 50359945, 0x1da80005219],
  [4067, 211, 3379, 12275, 8400585, 12291, 10547, 8402, 12361, 2307, 20729, 12323, 29380297, 28921,
    26905, 20185, 12355, 83, 12041, 12371, 3507, 37113, 20825, 28377, 20233, 3587, 19833, 29017,
    0x60880005389, 21385, 13939, 28025],
  [21321, 0x61480005349, 36217, 14755, 15571, 15587, 14771, 15603, 44409, 3779, 3923, 3939, 3955,
    3971, 6243, 14963, 7731, 13347, 14979, 13795, 6291, 12345, 14163, 21299, 6467, 13443, 8115, 11235,
    21379, 3987, 21427, 7491],
  [20537, 20969, 0x73e800051e9, 20953, 0x5fe800051d9, 21496, 0xa68800053f8, 21481, 0x3c6800053e9,
    15043, 19970, 21369, 0x75080005379, 8147, 20201, 4003, 2579, 8835, 14643, 8179, 21000457,
    0x6ea800053c9, 21449, 15091, 21033, 0x57c80005229, 11065, 21177, 0x1fe800052b9, 0x1ac800052c9,
    16915, 2083],
  [9027, 15475, 14691, 15491, 14707, 117460617, 9651, 10691, 2211, 19273, 27417, 435, 531, 2099,
    21225, 0x726800052e9, 180383369, 41971337, 9667, 0x122800053d9, 0x1be800052d9, 563, 579, 659,
    21241, 0x118800052f9, 218140297, 21129, 0x53880005289, 14179, 675, 691],
  [15619, 15635, 15651, 9715, 723, 21289, 0x73480005329, 21305, 0x73680005339, 9747, 7379, 7411,
    10787, 10803, 11507, 11523, 6483, 915, 1011, 1043, 1059, 1139, 1155, 1171, 1203, 1395, 1491, 1523,
    1539, 1619, 1635, 1651],
  [1683, 2995, 3059, 4131, 21027, 4147, 21043, 7683, 14547, 4371, 17379, 4387, 6819, 20793, 20777,
    8408777, 17635, 4627, 8610, 4851, 28969, 29001, 28985, 29388489, 20217, 11049, 2003, 6339, 20489,
    37193, 37177, 19145],
  [27321, 20991833, 15459, 15507, 14723, 11129, 45305, 45385, 12611417, 20691, 27993, 15523, 15539,
    15555, 19321, 35625, 14003, 1267, 14339, 1891, 16259, 19123, 14819, 11, 19251, 4243, 4259, 14371,
    16403, 16419, 19379, 14883],
  [8451, 4467, 14563, 27033, 7747, 4835, 35225, 16275, 20249, 4979, 27833, 3491, 11849, 5043,
    15075, 9011, 36025, 3555, 20467, 5443, 9299, 9123, 44217, 19577, 2227, 9315, 14227, 6355, 27769,
    6019, 14243, 6371],
  [9731, 6387, 9763, 20457, 9779, 6403, 9795, 2339, 7523, 10099, 14259, 7571, 10499, 1907, 1923]]⟩

/-- The distinct rows of actions; the column is the token and the entry one more than the set. -/
def actionRows : Table Nat := ⟨[
  [0x145001448024400243802430024280242002418024100240802400023f8023f0023e8023e0023d8023d0023c8023c0023b8023b0023a8023a00239802390023880238002378023700236802360023580235002348023400233802330023280232002318023100230802300022f8022f0022e8022e0022d8022d0022c8022c0022b8022b0022a8022a00229802290022880228002278022700226802260022580225002248022400223802230022280222002218022100220802200021f8021f0021e8021e0021d8021d0021c8021c0021b8021b0021a8021a00219802190021880218002178021700216802160021580215002148021400213802130021280212002118021100210802100020f8020f0020e8020e0020d8020d0020c8020c0020b8020b0020a8020a00209802090020880206802060020580205002048020400203802030020280202002018020100200800,
    0x1450014482f4402e4382d4202d4182c4102c4082b4002b3f82b3f02b3e82b3e02a3d8293d0283c8273b0263a80b3a00b3980b3900b3880b3800b3780b3700b368253602435823350223480b31821300202f81f2f01e2e81d2d81c2c01b2b81a2b0192a8182a01729816290152881428013278122700b25811248102400f2280e2080d2000d1f80c1f00c1e80b1c00a1700a16809130080b0040a80706806060050580405004048040400503805030040280402004018300100300800,
    51382274,
    0x5d4405c4385b4205b4185a4105a40859400593f8593f0593e8593e0583d8573d0563c8553b0543a8393a03939839390393883938039378393703936853360523585135050348393184f3004e2f84d2f04c2e84b2d84a2c0492b8482b0472a8462a0452984429043288422804127840270392583f2483e2403d2283c2083b2003b1f83a1f03a1e8391c0381703816837130360b0320a835068340603305832050320483204033038330303202832020320185e0105f00802,
    0x653a8642e8632d86228861258612500013060090660100000802, 0x6a440694380b25800250681306709005,
    0x96440954389442094418934109340892400923f8923f0923e8923e0913d8903d08f3c88e3b08d3a8723a0723987239072388723807237872370723688c3608b3588a350893487231888300872f8862f0852e8842d8832c0822b8812b0802a87f2a07e2987d2907c2887b2807a2787927072258982507824877240762287520874200741f8731f0731e8721c07117071168700b06b0a86f0906e0686d0606c0586b0506b0486b0406c0386c0306b0286b0206b0189701005,
    0x9a2589a2509909005, 0xb258002509b09005, 163614729, 164663305, 165711881, 166760457, 167809033,
    0xa32e8a22d8a128800090a401009, 0x653a8001300000802, 36873,
    0x1450014482f4402e4382d4202d4182c4102c4082b4002b3f82b3f02b3e82b3e0223c8223a82234822300222f8ab2f0aa2a8a727010240a7230a6220a72100e208a9200a91f80c1f00a1e8a71d8a71c8a61b8a61b0a61a8a61a0a6198a6190a6188a6180a6178a8170a8168a7160a7158a7150a7148a7140a7138a6130a6128a7120a7118a7110a7108a7100a70f8a70f0a70e8a70e0a70d8a70d0a60c8a60c0a50b0040a80706806060050580405004048040400503805030040280402004018ac01000,
    0xad440ad438ad420ad418ad410ad408ad400ad3f8ad3f0ad3e8ad3e0ad3d8ae3d0ad3c8ae3b0ad3a8ad3a0ad398ad390ad388ad380ad378ad370ad368ad360ad358ad350ad348ad318ad300ad2f8ad2f0ad2e8ad2e0ad2d8ad2c0ad2b8ad2b0ad2a8ad2a0ad298ad290ad288ad280ad278ae270ad268ad258ad250ae248ad240ae230ad228ad220ae218ae210ad208ae200ae1f8ae1f0ad1e8ad1e0ae1d8ae1d0ae1c8ad1c0ad1b8ae1b0ad1a8ae1a0ae198ae190ad188ad180ae178ad170ad168ae160ae158ae150ae148ae140ae138ad130ad128ad0c0ae0b8ae0b0ad0a8ae090ae068ad060ae058ad050ad048ad040ae038ae030ad028ad020ad018ad010ae00802,
    0xaf440af438af420af418af410af408af400af3f8af3f0af3e8af3e0af3d8b03d0af3c8b03b0af3a8af3a0af398af390af388af380af378af370af368af360af358af350af348af318af300af2f8af2f0af2e8af2e0af2d8af2c0af2b8af2b0af2a8af2a0af298af290af288af280af278b0270af268af258af250b0248af240b0230af228af220b0218b0210af208b0200b01f8b01f0af1e8af1e0b01d8b01d0b01c8af1c0af1b8b01b0af1a8b01a0b0198b0190af188af180b0178af170af168b0160b0158b0150b0148b0140b0138af130af128af0c0b00b8b00b0af0a8b0090b0068af060b0058af050af048af040b0038b0030af028af020af018af010b000802,
    0xb1440b1438b1420b1418b1410b1408b1400b13f8b13f0b13e8b13e0b13d8b23d0b13c8b23b0b13a8b13a0b1398b1390b1388b1380b1378b1370b1368b1360b1358b1350b1348b1318b1300b12f8b12f0b12e8b12e0b12d8b12c0b12b8b12b0b12a8b12a0b1298b1290b1288b1280b1278b2270b1268b1258b1250b2248b1240b1228b2218b1208b2200b21f8b21f0b11e8b21e0b21d8b21d0b21c8b11c0b11b8b21b0b11a8b21a0b2198b2190b1188b1180b2178b1170b1168b2160b2158b2150b2148b2140b2138b1130b1128b10c0b20b8b20b0b10a8b2090b2068b1060b2058b1050b1048b1040b2038b2030b1028b1020b1018b1010b200802,
    0xb3440b3438b3420b3418b3410b3408b3400b33f8b33f0b33e8b33e0b33d8b43d0b33c8b43b0b33a8b33a0b3398b3390b3388b3380b3378b3370b3368b3360b3358b3350b3348b3318b3300b32f8b32f0b32e8b32d8b32c0b32b8b32b0b32a8b32a0b3298b3290b3288b3280b3278b4270b3268b3258b4248b3240b4230b3228b3220b4218b4210b3208b4200b41f8b41f0b31e8b31e0b41d8b41d0b41c8b31c0b31b8b41b0b31a8b41a0b4198b4190b3188b3180b4178b3170b3168b4160b4158b4150b4148b4140b4138b3130b3128b30c0b40b8b40b0b30a8b4090b4068b3060b4058b3050b3048b3040b4038b4030b3028b3020b3018b301006,
    0xb5440b5438b5420b5418b5410b5408b5400b53f8b53f0b53e8b53e0b53d8b63d0b53c8b63b0b53a8b53a0b5398b5390b5388b5380b5378b5370b5368b5360b5358b5350b5348b5318b5300b52f8b52f0b52e8b52e0b52d8b52c0b52b8b52b0b52a8b52a0b5298b5290b5288b5280b5278b6270b5268b5258b5250b6248b5240b5228b6218b5208b6200b61f8b61f0b51e8b61e0b61d8b61d0b61c8b51c0b51b8b61b0b51a8b61a0b6198b6190b5188b5180b6178b5170b5168b6160b6158b6150b6148b6140b6138b5130b5128b50c0b60b8b60b0b50a8b6090b6068b5060b6058b5050b5048b5040b6038b6030b5028b5020b5018b5010b600802,
    0xb7440b7438b7420b7418b7410b7408b7400b73f8b73f0b73e8b73e0b73d8b83d0b73c8b83b0b73a8b73a0b7398b7390b7388b7380b7378b7370b7368b7360b7358b7350b7348b7318b7300b72f8b72f0b72e8b72e0b72d8b72c0b72b8b72b0b72a8b72a0b7298b7290b7288b7280b7278b8270b7268b7258b7250b8248b7240b7228b8218b7208b8200b81f8b81f0b71e8b81e0b81d8b81d0b81c8b71c0b71b8b81b0b71a8b81a0b8198b8190b7188b7180b8178b7170b7168b8160b8158b8150b8148b8140b8138b7130b7128b70c0b80b8b80b0b70a8b8090b8068b7060b8058b7050b7048b7040b8038b8030b7028b7020b7018b7010b800802,
    0xb9440b9438b9420b9418b9410b9408b9400b93f8b93f0b93e8b93e0b93d8ba3d0b93c8ba3b0b93a8b93a0b9398b9390b9388b9380b9378b9370b9368b9360b9358b9350b9348b9318b9300b92f8b92f0b92e8b92e0b92d8b92c0b92b8b92b0b92a8b92a0b9298b9290b9288b9280b9278ba270b9268b9258b9250ba248b9240b9228ba218b9208ba200ba1f8ba1f0b91e8ba1e0ba1d8ba1d0ba1c8b91c0b91b8ba1b0b91a8ba1a0ba198ba190b9188b9180ba178b9170b9168ba160ba158ba150ba148ba140ba138b9130b9128b90c0ba0b8ba0b0b90a8ba090ba068b9060ba058b9050b9048b9040ba038ba030b9028b9020b9018b9010ba00802,
    0xbb440bb438bb420bb418bb410bb408bb400bb3f8bb3f0bb3e8bb3e0bb3d8bc3d0bb3c8bc3b0bb3a8bb3a0bb398bb390bb388bb380bb378bb370bb368bb360bb358bb350bb348bb318bb300bb2f8bb2f0bb2e8bb2e0bb2d8bb2c0bb2b8bb2b0bb2a8bb2a0bb298bb290bb288bb280bb278bc270bb268bb258bb250bc248bb240bb228bc218bb208bc200bc1f8bc1f0bb1e8bc1e0bc1d8bc1d0bc1c8bb1c0bb1b8bc1b0bb1a8bc1a0bc198bc190bb188bb180bc178bb170bb168bc160bc158bc150bc148bc140bc138bb130bb128bb0c0bc0b8bc0b0bb0a8bc090bc068bb060bc058bb050bb048bb040bc038bc030bb028bb020bb018bb010bc00802,
    0x3d8003d0223c8c13b0c03a8be3a0be398be390be388be380be378be370be368003600035800350be31822300222f8bf2f0002e8002d8002c0002b8be2b0aa2a8002a0002980029000288002800027800270be2580024800228be1c0bd0b8c20100f,
    204476443, 0xc4270000b8ac0101b, 206729245, 207777821,
    0xcb440cb438cb420cb418cb410cb408cb400cb3f8cb3f0cb3e8cb3e0cb3d8cc3d0cb3c8cc3b0cb3a8cb3a0cb398cb390cb388cb380cb378cb370cb368cb360cb358cb350cb348cb318cb300cb2f8cb2f0cb2e8cb2e0cb2d8cb2c0cb2b8cb2b0cb2a8cb2a0cb298cb290cb288cb280cb278ca270cb258cb250cc248cb240cb228cb208ca200ca1f8cc1f0cb1e8c81d8cb1c0c71b8c81b0c71a8c81a0c8198c8190c7188c7180c8178c9170c9168c8160c8158c8150c8148c8140c8138c7130c7128c70c0cc0b0cb0a8cc090cc068cb060cc058cb050cb048cb040cc038cc030cb028cb020cb018cb01005],
  [0x250c913000090cc00820,
    0x3b0223a8003a00039800390003880038000378003700036800318ab2f0002b000258ce248001c0cd0b8cf0101b,
    0xd11d0000b8d0090ac01022, 0x1b2b811248000b8ac01022, 220248098, 221296674, 0xd6248d51d0d409023,
    0xd826000248d70b8d901022, 0x1d0da09023, 229675049, 230733864,
    0x44000438a6420a6418a6410a6408a6400a63f8a63f0a63e8a63e0a63d8a73d0a63c8a73b0a63a8a63a0a6398a6390a6388a6380a6378a6370a6368a6360a6350a6348a6328a6318a6300a62f8a62f0a62b0002a8a6268a6258a724800240a6228a7220a721800208a7200a71f8001f0001e8a61e0a71d0a61c0a6170a6168a70b8a70b0000a8a70900006800060000580005000048000400003800030000280002000018a601012,
    0x248e0200e01f8df1f0df1e8de170de168000b8dd0b0e101022, 36905, 0x1d0e209027, 0x1d0e309027,
    0x248000b8e401022, 178212, 224544818, 0x11248e50102d, 0xe6270ac01031, 0xe70b8ac01031,
    0xe8218ac01031,
    0xe9440e9438e9420e9418e9410e9408e9400e93f8e93f0e93e8e93e0e93d8ea3d0e93c8ea3b0e93a8e93a0e9398e9390e9388e9380e9378e9370e9368e9360e9358e9350e9348e9318e9300e92f8e92f0e92e8e92e0e92d8ec2d0eb2c8e92c0e92b8e92b0e92a8e92a0e9298e9290e9288e9280e9278ea270e9258e9250ea248e9240e9228e9208ea200ea1f8ea1f0ea1e8e91c0e9170e9168ea130ea0b0e90a8ea090ea068e9060ea058e9050e9048e9040ea038ea030e9028e9020e9018e9010ea00802,
    0xed440ed438ed420ed418ed410ed408ed400ed3f8ed3f0ed3e8ed3e0ed3d8ee3d0ed3c8ee3b0ed3a8ed3a0ed398ed390ed388ed380ed378ed370ed368ed360ed358ed350ed348ed318ed300ed2f8ed2f0ed2e8ed2e0ed2d8ed2c0ed2b8ed2b0ed2a8ed2a0ed298ed290ed288ed280ed278ee270ed258ed250ee248ed240ed228ed208ee200ee1f8ee1f0ee1e8ed1c0ed170ed168ee130ee0b0ed0a8ee090ee068ed060ee058ed050ed048ed040ee038ee030ed028ed020ed018ed010ee00838,
    250769461, 251818037, 252844087,
    0xf2440f2438f2420f2418f2410f2408f2400f23f8f23f0f23e8f23e0f23d8f33d0f23c8f33b0f23a8f23a0f2398f2390f2388f2380f2378f2370f2368f2360f2358f2350f2348f2318f2300f22f8f22f0f22e8f22e0f22d8f22c0f22b8f22b0f22a8f22a0f2298f2290f2288f2280f2278f3270f2258f2250f3248f2240f2228f2208f3200f31f8f31f0f31e8f21c0f2170f2168f3130f30b0f20a8f3090f3068f2060f3058f2050f2048f2040f3038f3030f2028f2020f2018f2010f300838,
    255899702, 257060917, 257996854],
  [259045430, 260094006, 261255221, 262191158, 263239734, 264288310, 265336886, 266475575,
    267524151, 268482614, 269531190, 270579766, 271628342, 272676918, 273725494, 274774070, 275822646,
    276871222, 277919798, 278968374, 280016950, 281065526, 282114102, 283162678, 284211254, 285372469,
    286421045, 287469621, 288518197, 289566773, 290615349, 291663925],
  [292712501, 180359217,
    0x118441184391842118419184111840918401183f9183f1183e9183e1183d9193d1183c9193b1183a9183a118399183911838918381183791837118369183611835918351183491831918301182f9182f1182e9182e1182d9182d11a2c9182c1182b9182b1182a9182a118299182911828918281182791927118259182511924918241182291820919201191f9191f1191e9181c1181711816919131190b1180a9190911906918061190591805118049180411903919031180291802118019180111900802,
    240128045, 0x2411d20800200001f8001f0001e800170001691c0b91b0b11e0101b, 300988517,
    0x120441204392042120419204112040920401203f9203f1203e9203e1203d9213d1203c9213b1203a9203a120399203912038920381203792037120369203612035920351203492031920301202f9202f1202e9202e1202d9202d1202c9202c1202b9202b1202a9202a120299202912028920281202792127120259202512124920241202292020921201211f9211f1211e9201c1201712016921131210b1200a9210912106920061210592005120049200412103921031200292002120019200112100802,
    0xb12d0b12c80026800218b21e8001e0001d8001d0001c8001b8001b0001a8001a00019800190001880018000178001600015800150001480014000138b213000128000c0000b815,
    0xb72d0b72c80026800218b81e8001e0001d8001d0001c8001b8001b0001a8001a00019800190001880018000178001600015800150001480014000138b813000128000c0000b818,
    47205,
    0xcc270cc200cc1f8cc1e8001d8001b8001b0001a8001a00019800190001880018000178cb170cb168001600015800150001480014000138cc13000128000c0cc00820,
    0x122441224392242122419224112240922401223f9223f1223e9223e1223d9233d1223c9233b1223a9223a122399223912238922381223792237122369223612235922351223492231922301222f9222f1222e9222e1222d9222c1222b9222b1222a9222a122299222912228922281222792327122259222512324922241222292220923201231f9231f1231e9221c1221712216923131230b1220a9230912306922061230592205122049220412303923031220292202122019220112300802,
    0x124441244392442124419244112440924401243f9243f1243e9243e1243d9253d1243c9253b1243a9243a124399243912438924381243792437124369243612435924351243492431924301242f9242f1242e9242e1242d9242c1242b9242b1242a9242a124299242912428924281242792527124259242512524924241242292420925201251f9251f1251e9241c1241712416925131250b1240a9250912506924061250592405124049240412503925031240292402124019240112500802,
    0x126441264392642126419264112640926401263f9263f1263e9263e1263d9273d1263c9273b1263a9263a126399263912638926381263792637126369263612635926351263492631926301262f9262f1262e9262e1262d9262c1262b9262b1262a9262a126299262912628926281262792727126259262512724926241262292620927201271f9271f1271e9261c1261712616927131270b1260a9270912706926061270592605126049260412703927031260292602126019260112700802,
    0x128441284392842128419284112840928401283f9283f1283e9283e1283d9293d1283c9293b1283a9283a128399283912838928381283792837128369283612835928351283492831928301282f9282f1282e9282e1282d9282c1282b9282b1282a9282a128299282912828928281282792927128259282512924928241282292820929201291f9291f1291e9281c1281712816929131290b1280a9290912906928061290592805128049280412903929031280292802128019280112900802,
    0x12a4412a4392a4212a4192a4112a4092a4012a3f92a3f12a3e92a3e12a3d92b3d12a3c92b3b12a3a92a3a12a3992a3912a3892a3812a3792a3712a3692a3612a3592a3512a3492a3192a3012a2f92a2f12a2e92a2e12a2d92a2c12a2b92a2b12a2a92a2a12a2992a2912a2892a2812a2792b2712a2592a2512b2492a2412a2292a2092b2012b1f92b1f12b1e92a1c12a1712a1692b1312b0b12a0a92b0912b0692a0612b0592a0512a0492a0412b0392b0312a0292a0212a0192a0112b00802,
    0x12c4412c4392c4212c4192c4112c4092c4012c3f92c3f12c3e92c3e12c3d92d3d12c3c92d3b12c3a92c3a12c3992c3912c3892c3812c3792c3712c3692c3612c3592c3512c3492c3192c3012c2f92c2f12c2e92c2e12c2d92c2c12c2b92c2b12c2a92c2a12c2992c2912c2892c2812c2792d2712c2592c2512d2492c2412c2292c2092d2012d1f92d1f12d1e92c1c12c1712c1692d1312d0b12c0a92d0912d0692c0612d0592c0512c0492c0412d0392d0312c0292c0212c0192c0112d00802,
    0x12e4412e4392e4212e4192e4112e4092e4012e3f92e3f12e3e92e3e12e3d92f3d12e3c92f3b12e3a92e3a12e3992e3912e3892e3812e3792e3712e3692e3612e3592e3512e3492e3192e3012e2f92e2f12e2e92e2e12e2d92e2c12e2b92e2b12e2a92e2a12e2992e2912e2892e2812e2792f2712e2592e2512f2492e2412e2292e2092f2012f1f92f1f12f1e92e1c12e1712e1692f1312f0b12e0a92f0912f0692e0612f0592e0512e0492e0412f0392f0312e0292e0212e0192e0112f00802,
    0x130441304393042130419304113040930401303f9303f1303e9303e1303d9313d1303c9313b1303a9303a130399303913038930381303793037130369303613035930351303493031930301302f9302f1302e9302e1302d9302c1302b9302b1302a9302a130299302913028930281302793127130259302513124930241302293020931201311f9311f1311e9301c1301713016931131310b1300a9310913106930061310593005130049300413103931031300293002130019300113100802,
    0x132441324393242132419324113240932401323f9323f1323e9323e1323d9333d1323c9333b1323a9323a132399323913238932381323793237132369323613235932351323493231932301322f9322f1322e9322e1322d9322c1322b9322b1322a9322a132299322913228932281322793327132259322513324932241322293220933201331f9331f1331e9321c1321713216933131330b1320a9330913306932061330593205132049320413303933031320293202132019320113300802,
    0x134441344393442134419344113440934401343f9343f1343e9343e1343d9353d1343c9353b1343a9343a134399343913438934381343793437134369343613435934351343493431934301342f9342f1342e9342e1342d9342c1342b9342b1342a9342a134299342913428934281342793527134259342513524934241342293420935201351f9351f1351e9341c1341713416935131350b1340a9350913506934061350593405134049340413503935031340293402134019340113500802,
    0x136441364393642136419364113640936401363f9363f1363e9363e1363d9373d1363c9373b1363a9363a136399363913638936381363793637136369363613635936351363493631936301362f9362f1362e9362e1362d9362c1362b9362b1362a9362a136299362913628936281362793727136259362513724936241362293620937201371f9371f1371e9361c1361713616937131370b1360a9370913706936061370593605136049360413703937031360293602136019360113700802,
    0x138441384393842138419384113840938401383f9383f1383e9383e1383d9393d1383c9393b1383a9383a138399383913838938381383793837138369383613835938351383493831938301382f9382f1382e9382e1382d9382c1382b9382b1382a9382a138299382913828938281382793927138259382513924938241382293820939201391f9391f1391e9381c1381713816939131390b1380a9390913906938061390593805138049380413903939031380293802138019380113900802,
    0x13a4413a4393a4213a4193a4113a4093a4013a3f93a3f13a3e93a3e13a3d93b3d13a3c93b3b13a3a93a3a13a3993a3913a3893a3813a3793a3713a3693a3613a3593a3513a3493a3193a3013a2f93a2f13a2e93a2e13a2d93a2c13a2b93a2b13a2a93a2a13a2993a2913a2893a2813a2793b2713a2593a2513b2493a2413a2293a2093b2013b1f93b1f13b1e93a1c13a1713a1693b1313b0b13a0a93b0913b0693a0613b0593a0513a0493a0413b0393b0313a0293a0213a0193a0113b00802,
    0x13c4413c4393c4213c4193c4113c4093c4013c3f93c3f13c3e93c3e13c3d93d3d13c3c93d3b13c3a93c3a13c3993c3913c3893c3813c3793c3713c3693c3613c3593c3513c3493c3193c3013c2f93c2f13c2e93c2e13c2d93c2c13c2b93c2b13c2a93c2a13c2993c2913c2893c2813c2793d2713c2593c2513d2493c2413c2293c2093d2013d1f93d1f13d1e93c1c13c1713c1693d1313d0b13c0a93d0913d0693c0613d0593c0513c0493c0413d0393d0313c0293c0213c0193c0113d00802,
    0x2d0002c838,
    0x13e4413e4393e4213e4193e4113e4093e4013e3f93e3f13e3e93e3e13e3d93f3d13e3c93f3b13e3a93e3a13e3993e3913e3893e3813e3793e3713e3693e3613e3593e3513e3493e3193e3013e2f93e2f13e2e93e2e13e2d93e2c13e2b93e2b13e2a93e2a13e2993e2913e2893e2813e2793f2713e2593e2513f2493e2413e2293e2093f2013f1f93f1f13f1e93e1c13e1713e1693f1313f0b13e0a93f0913f0693e0613f0593e0513e0493e0413f0393f0313e0293e0213e0193e0113f00802,
    0x140441404394042140419404114040940401403f9403f1403e9403e1403d9413d1403c9413b1403a9403a140399403914038940381403794037140369403614035940351403494031940301402f9402f1402e9402e1402d9402c1402b9402b1402a9402a140299402914028940281402794127140259402514124940241402294020941201411f9411f1411e9401c1401714016941131410b1400a9410914106940061410594005140049400414103941031400294002140019400114100802,
    0x142441424394242142419424114240942401423f9423f1423e9423e1423d9433d1423c9433b1423a9423a142399423914238942381423794237142369423614235942351423494231942301422f9422f1422e9422e1422d9422c1422b9422b1422a9422a142299422914228942281422794327142259422514324942241422294220943201431f9431f1431e9421c1421714216943131430b1420a9430914306942061430594205142049420414303943031420294202142019420114300802,
    0x144441444394442144419444114440944401443f9443f1443e9443e1443d9453d1443c9453b1443a9443a144399443914438944381443794437144369443614435944351443494431944301442f9442f1442e9442e1442d9442c1442b9442b1442a9442a144299442914428944281442794527144259442514524944241442294420945201451f9451f1451e9441c1441714416945131450b1440a9450914506944061450594405144049440414503945031440294402144019440114500802,
    0x146441464394642146419464114640946401463f9463f1463e9463e1463d9473d1463c9473b1463a9463a146399463914638946381463794637146369463614635946351463494631946301462f9462f1462e9462e1462d9462c1462b9462b1462a9462a146299462914628946281462794727146259462514724946241462294620947201471f9471f1471e9461c1461714616947131470b1460a9470914706946061470594605146049460414703947031460294602146019460114700802,
    0x148441484394842148419484114840948401483f9483f1483e9483e1483d9493d1483c9493b1483a9483a148399483914838948381483794837148369483614835948351483494831948301482f9482f1482e9482e1482d9482c1482b9482b1482a9482a148299482914828948281482794927148259482514924948241482294820949201491f9491f1491e9481c1481714816949131490b1480a9490914906948061490594805148049480414903949031480294802148019480114900802],
  [0x14a4414a4394a4214a4194a4114a4094a4014a3f94a3f14a3e94a3e14a3d94b3d14a3c94b3b14a3a94a3a14a3994a3914a3894a3814a3794a3714a3694a3614a3594a3514a3494a3194a3014a2f94a2f14a2e94a2e14a2d94a2c14a2b94a2b14a2a94a2a14a2994a2914a2894a2814a2794b2714a2594a2514b2494a2414a2294a2094b2014b1f94b1f14b1e94a1c14a1714a1694b1314b0b14a0a94b0914b0694a0614b0594a0514a0494a0414b0394b0314a0294a0214a0194a0114b00802,
    0x14c4414c4394c4214c4194c4114c4094c4014c3f94c3f14c3e94c3e14c3d94d3d14c3c94d3b14c3a94c3a14c3994c3914c3894c3814c3794c3714c3694c3614c3594c3514c3494c3194c3014c2f94c2f14c2e94c2e14c2d94c2c14c2b94c2b14c2a94c2a14c2994c2914c2894c2814c2794d2714c2594c2514d2494c2414c2294c2094d2014d1f94d1f14d1e94c1c14c1714c1694d1314d0b14c0a94d0914d0694c0614d0594c0514c0494c0414d0394d0314c0294c0214c0194c0114d00802,
    0x14e4414e4394e4214e4194e4114e4094e4014e3f94e3f14e3e94e3e14e3d94f3d14e3c94f3b14e3a94e3a14e3994e3914e3894e3814e3794e3714e3694e3614e3594e3514e3494e3194e3014e2f94e2f14e2e94e2e14e2d94e2c14e2b94e2b14e2a94e2a14e2994e2914e2894e2814e2794f2714e2594e2514f2494e2414e2294e2094f2014f1f94f1f14f1e94e1c14e1714e1694f1314f0b14e0a94f0914f0694e0614f0594e0514e0494e0414f0394f0314e0294e0214e0194e0114f00802,
    0x150441504395042150419504115040950401503f9503f1503e9503e1503d9513d1503c9513b1503a9503a150399503915038950381503795037150369503615035950351503495031950301502f9502f1502e9502e1502d9502c1502b9502b1502a9502a150299502915028950281502795127150259502515124950241502295020951201511f9511f1511e9501c1501715016951131510b1500a9510915106950061510595005150049500415103951031500295002150019500115100802,
    0x152441524395242152419524115240952401523f9523f1523e9523e1523d9533d1523c9533b1523a9523a152399523915238952381523795237152369523615235952351523495231952301522f9522f1522e9522e1522d9522c1522b9522b1522a9522a152299522915228952281522795327152259522515324952241522295220953201531f9531f1531e9521c1521715216953131530b1520a9530915306952061530595205152049520415303953031520295202152019520115300802,
    0x154441544395442154419544115440954401543f9543f1543e9543e1543d9553d1543c9553b1543a9543a154399543915438954381543795437154369543615435954351543495431954301542f9542f1542e9542e1542d9542c1542b9542b1542a9542a154299542915428954281542795527154259542515524954241542295420955201551f9551f1551e9541c1541715416955131550b1540a9550915506954061550595405154049540415503955031540295402154019540115500802,
    0x2d0002c83d,
    0x156441564395642156419564115640956401563f9563f1563e9563e1563d9573d1563c9573b1563a9563a156399563915638956381563795637156369563615635956351563495631956301562f9562f1562e9562e1562d9562c1562b9562b1562a9562a156299562915628956281562795727156259562515724956241562295620957201571f9571f1571e9561c1561715616957131570b1560a9570915706956061570595605156049560415703957031560295602156019560115700802,
    0x158441584395842158419584115840958401583f9583f1583e9583e1583d9593d1583c9593b1583a9583a158399583915838958381583795837158369583615835958351583495831958301582f9582f1582e9582e1582d9582c1582b9582b1582a9582a158299582915828958281582795927158259582515924958241582295820959201591f9591f1591e9581c1581715816959131590b1580a9590915906958061590595805158049580415903959031580295802158019580115900802,
    0x15a4415a4395a4215a4195a4115a4095a4015a3f95a3f15a3e95a3e15a3d95b3d15a3c95b3b15a3a95a3a15a3995a3915a3895a3815a3795a3715a3695a3615a3595a3515a3495a3195a3015a2f95a2f15a2e95a2e15a2d95a2c15a2b95a2b15a2a95a2a15a2995a2915a2895a2815a2795b2715a2595a2515b2495a2415a2295a2095b2015b1f95b1f15b1e95a1c15a1715a1695b1315b0b15a0a95b0915b0695a0615b0595a0515a0495a0415b0395b0315a0295a0215a0195a0115b00802,
    0x15c4415c4395c4215c4195c4115c4095c4015c3f95c3f15c3e95c3e15c3d95d3d15c3c95d3b15c3a95c3a15c3995c3915c3895c3815c3795c3715c3695c3615c3595c3515c3495c3195c3015c2f95c2f15c2e95c2e15c2d95c2c15c2b95c2b15c2a95c2a15c2995c2915c2895c2815c2795d2715c2595c2515d2495c2415c2295c2095d2015d1f95d1f15d1e95c1c15c1715c1695d1315d0b15c0a95d0915d0695c0615d0595c0515c0495c0415d0395d0315c0295c0215c0195c0115d00802,
    0x15e4415e4395e4215e4195e4115e4095e4015e3f95e3f15e3e95e3e15e3d95f3d15e3c95f3b15e3a95e3a15e3995e3915e3895e3815e3795e3715e3695e3615e3595e3515e3495e3195e3015e2f95e2f15e2e95e2e15e2d95e2c15e2b95e2b15e2a95e2a15e2995e2915e2895e2815e2795f2715e2595e2515f2495e2415e2295e2095f2015f1f95f1f15f1e95e1c15e1715e1695f1315f0b15e0a95f0915f0695e0615f0595e0515e0495e0415f0395f0315e0295e0215e0195e0115f00802,
    0x160441604396042160419604116040960401603f9603f1603e9603e1603d9613d1603c9613b1603a9603a160399603916038960381603796037160369603616035960351603496031960301602f9602f1602e9602e1602d9602c1602b9602b1602a9602a160299602916028960281602796127160259602516124960241602296020961201611f9611f1611e9601c1601716016961131610b1600a9610916106960061610596005160049600416103961031600296002160019600116100802,
    0x162441624396242162419624116240962401623f9623f1623e9623e1623d9633d1623c9633b1623a9623a162399623916238962381623796237162369623616235962351623496231962301622f9622f1622e9622e1622d9622c1622b9622b1622a9622a162299622916228962281622796327162259622516324962241622296220963201631f9631f1631e9621c1621716216963131630b1620a9630916306962061630596205162049620416303963031620296202162019620116300802,
    0x164441644396442164419644116440964401643f9643f1643e9643e1643d9653d1643c9653b1643a9643a164399643916438964381643796437164369643616435964351643496431964301642f9642f1642e9642e1642d9642c1642b9642b1642a9642a164299642916428964281642796527164259642516524964241642296420965201651f9651f1651e9641c1641716416965131650b1640a9650916506964061650596405164049640416503965031640296402164019640116500802,
    0x166441664396642166419664116640966401663f9663f1663e9663e1663d9673d1663c9673b1663a9663a166399663916638966381663796637166369663616635966351663496631966301662f9662f1662e9662e1662d9662c1662b9662b1662a9662a166299662916628966281662796727166259662516724966241662296620967201671f9671f1671e9661c1661716616967131670b1660a9670916706966061670596605166049660416703967031660296602166019660116700802,
    0x168441684396842168419684116840968401683f9683f1683e9683e1683d9693d1683c9693b1683a9683a168399683916838968381683796837168369683616835968351683496831968301682f9682f1682e9682e1682d9682c1682b9682b1682a9682a168299682916828968281682796927168259682516924968241682296820969201691f9691f1691e9681c1681716816969131690b1680a9690916906968061690596805168049680416903969031680296802168019680116900802,
    0x16a4416a4396a4216a4196a4116a4096a4016a3f96a3f16a3e96a3e16a3d96b3d16a3c96b3b16a3a96a3a16a3996a3916a3896a3816a3796a3716a3696a3616a3596a3516a3496a3196a3016a2f96a2f16a2e96a2e16a2d96a2c16a2b96a2b16a2a96a2a16a2996a2916a2896a2816a2796b2716a2596a2516b2496a2416a2296a2096b2016b1f96b1f16b1e96a1c16a1716a1696b1316b0b16a0a96b0916b0696a0616b0596a0516a0496a0416b0396b0316a0296a0216a0196a0116b00802,
    0x16c4416c4396c4216c4196c4116c4096c4016c3f96c3f16c3e96c3e16c3d96d3d16c3c96d3b16c3a96c3a16c3996c3916c3896c3816c3796c3716c3696c3616c3596c3516c3496c3196c3016c2f96c2f16c2e96c2e16c2d96c2c16c2b96c2b16c2a96c2a16c2996c2916c2896c2816c2796d2716c2596c2516d2496c2416c2296c2096d2016d1f96d1f16d1e96c1c16c1716c1696d1316d0b16c0a96d0916d0696c0616d0596c0516c0496c0416d0396d0316c0296c0216c0196c0116d00802,
    0x16e4416e4396e4216e4196e4116e4096e4016e3f96e3f16e3e96e3e16e3d96f3d16e3c96f3b16e3a96e3a16e3996e3916e3896e3816e3796e3716e3696e3616e3596e3516e3496e3196e3016e2f96e2f16e2e96e2e16e2d96e2c16e2b96e2b16e2a96e2a16e2996e2916e2896e2816e2796f2716e2596e2516f2496e2416e2296e2096f2016f1f96f1f16f1e96e1c16e1716e1696f1316f0b16e0a96f0916f0696e0616f0596e0516e0496e0416f0396f0316e0296e0216e0196e0116f00802,
    0x170441704397042170419704117040970401703f9703f1703e9703e1703d9713d1703c9713b1703a9703a170399703917038970381703797037170369703617035970351703497031970301702f9702f1702e9702e1702d9702c1702b9702b1702a9702a170299702917028970281702797127170259702517124970241702297020971201711f9711f1711e9701c1701717016971131710b1700a9710917106970061710597005170049700417103971031700297002170019700117100802,
    0x172441724397242172419724117240972401723f9723f1723e9723e1723d9733d1723c9733b1723a9723a172399723917238972381723797237172369723617235972351723497231972301722f9722f1722e9722e1722d9722c1722b9722b1722a9722a172299722917228972281722797327172259722517324972241722297220973201731f9731f1731e9721c1721717216973131730b1720a9730917306972061730597205172049720417303973031720297202172019720117300802,
    0x174441744397442174419744117440974401743f9743f1743e9743e1743d9753d1743c9753b1743a9743a174399743917438974381743797437174369743617435974351743497431974301742f9742f1742e9742e1742d9742c1742b9742b1742a9742a174299742917428974281742797527174259742517524974241742297420975201751f9751f1751e9741c1741717416975131750b1740a9750917506974061750597405174049740417503975031740297402174019740117500802,
    0x176441764397642176419764117640976401763f9763f1763e9763e1763d9773d1763c9773b1763a9763a176399763917638976381763797637176369763617635976351763497631976301762f9762f1762e9762e1762d9762c1762b9762b1762a9762a176299762917628976281762797727176259762517724976241762297620977201771f9771f1771e9761c1761717616977131770b1760a9770917706976061770597605176049760417703977031760297602176019760117700802,
    0x178441784397842178419784117840978401783f9783f1783e9783e1783d9793d1783c9793b1783a9783a178399783917838978381783797837178369783617835978351783497831978301782f9782f1782e9782e1782d9782c1782b9782b1782a9782a178299782917828978281782797927178259782517924978241782297820979201791f9791f1791e9781c1781717816979131790b1780a9790917906978061790597805178049780417903979031780297802178019780117900802,
    0x17a4417a4397a4217a4197a4117a4097a4017a3f97a3f17a3e97a3e17a3d97b3d17a3c97b3b17a3a97a3a17a3997a3917a3897a3817a3797a3717a3697a3617a3597a3517a3497a3197a3017a2f97a2f17a2e97a2e17a2d97a2c17a2b97a2b17a2a97a2a17a2997a2917a2897a2817a2797b2717a2597a2517b2497a2417a2297a2097b2017b1f97b1f17b1e97a1c17a1717a1697b1317b0b17a0a97b0917b0697a0617b0597a0517a0497a0417b0397b0317a0297a0217a0197a0117b00802,
    0x17c4417c4397c4217c4197c4117c4097c4017c3f97c3f17c3e97c3e17c3d97d3d17c3c97d3b17c3a97c3a17c3997c3917c3897c3817c3797c3717c3697c3617c3597c3517c3497c3197c3017c2f97c2f17c2e97c2e17c2d97c2c17c2b97c2b17c2a97c2a17c2997c2917c2897c2817c2797d2717c2597c2517d2497c2417c2297c2097d2017d1f97d1f17d1e97c1c17c1717c1697d1317d0b17c0a97d0917d0697c0617d0597c0517c0497c0417d0397d0317c0297c0217c0197c0117d00802,
    0x17e4417e4397e4217e4197e4117e4097e4017e3f97e3f17e3e97e3e17e3d97f3d17e3c97f3b17e3a97e3a17e3997e3917e3897e3817e3797e3717e3697e3617e3597e3517e3497e3197e3017e2f97e2f17e2e97e2e17e2d97e2c17e2b97e2b17e2a97e2a17e2997e2917e2897e2817e2797f2717e2597e2517f2497e2417e2297e2097f2017f1f97f1f17f1e97e1c17e1717e1697f1317f0b17e0a97f0917f0697e0617f0597e0517e0497e0417f0397f0317e0297e0217e0197e0117f00802,
    0x180441804398042180419804118040980401803f9803f1803e9803e1803d9813d1803c9813b1803a9803a180399803918038980381803798037180369803618035980351803498031980301802f9802f1802e9802e1802d9802c1802b9802b1802a9802a180299802918028980281802798127180259802518124980241802298020981201811f9811f1811e9801c1801718016981131810b1800a9810918106980061810598005180049800418103981031800298002180019800118100802,
    0x182441824398242182419824118240982401823f9823f1823e9823e1823d9833d1823c9833b1823a9823a182399823918238982381823798237182369823618235982351823498231982301822f9822f1822e9822e1822d9822c1822b9822b1822a9822a182299822918228982281822798327182259822518324982241822298220983201831f9831f1831e9821c1821718216983131830b1820a9830918306982061830598205182049820418303983031820298202182019820118300802,
    0x184441844398442184419844118440984401843f9843f1843e9843e1843d9853d1843c9853b1843a9843a184399843918438984381843798437184369843618435984351843498431984301842f9842f1842e9842e1842d9842c1842b9842b1842a9842a184299842918428984281842798527184259842518524984241842298420985201851f9851f1851e9841c1841718416985131850b1840a9850918506984061850598405184049840418503985031840298402184019840118500802,
    0x186441864398642186419864118640986401863f9863f1863e9863e1863d9873d1863c9873b1863a9863a186399863918638986381863798637186369863618635986351863498631986301862f9862f1862e9862e1862d9862c1862b9862b1862a9862a186299862918628986281862798727186259862518724986241862298620987201871f9871f1871e9861c1861718616987131870b1860a9870918706986061870598605186049860418703987031860298602186019860118700802],
  [0x188441884398842188419884118840988401883f9883f1883e9883e1883d9893d1883c9893b1883a9883a188399883918838988381883798837188369883618835988351883498831988301882f9882f1882e9882e1882d9882c1882b9882b1882a9882a188299882918828988281882798927188259882518924988241882298820989201891f9891f1891e9881c1881718816989131890b1880a9890918906988061890598805188049880418903989031880298802188019880118900802,
    0x18a4418a4398a4218a4198a4118a4098a4018a3f98a3f18a3e98a3e18a3d98b3d18a3c98b3b18a3a98a3a18a3998a3918a3898a3818a3798a3718a3698a3618a3598a3518a3498a3198a3018a2f98a2f18a2e98a2e18a2d98a2c18a2b98a2b18a2a98a2a18a2998a2918a2898a2818a2798b2718a2598a2518b2498a2418a2298a2098b2018b1f98b1f18b1e98a1c18a1718a1698b1318b0b18a0a98b0918b0698a0618b0598a0518a0498a0418b0398b0318a0298a0218a0198a0118b00802,
    0x18c4418c4398c4218c4198c4118c4098c4018c3f98c3f18c3e98c3e18c3d98d3d18c3c98d3b18c3a98c3a18c3998c3918c3898c3818c3798c3718c3698c3618c3598c3518c3498c3198c3018c2f98c2f18c2e98c2e18c2d98c2c18c2b98c2b18c2a98c2a18c2998c2918c2898c2818c2798d2718c2598c2518d2498c2418c2298c2098d2018d1f98d1f18d1e98c1c18c1718c1698d1318d0b18c0a98d0918d0698c0618d0598c0518c0498c0418d0398d0318c0298c0218c0198c0118d00802,
    0x18e4418e4398e4218e4198e4118e4098e4018e3f98e3f18e3e98e3e18e3d98f3d18e3c98f3b18e3a98e3a18e3998e3918e3898e3818e3798e3718e3698e3618e3598e3518e3498e3198e3018e2f98e2f18e2e98e2e18e2d98e2c18e2b98e2b18e2a98e2a18e2998e2918e2898e2818e2798f2718e2598e2518f2498e2418e2298e2098f2018f1f98f1f18f1e98e1c18e1718e1698f1318f0b18e0a98f0918f0698e0618f0598e0518e0498e0418f0398f0318e0298e0218e0198e0118f00802,
    0x190441904399042190419904119040990401903f9903f1903e9903e1903d9913d1903c9913b1903a9903a190399903919038990381903799037190369903619035990351903499031990301902f9902f1902e9902e1902d9902c1902b9902b1902a9902a190299902919028990281902799127190259902519124990241902299020991201911f9911f1911e9901c1901719016991131910b1900a9910919106990061910599005190049900419103991031900299002190019900119100802,
    0x192441924399242192419924119240992401923f9923f1923e9923e1923d9933d1923c9933b1923a9923a192399923919238992381923799237192369923619235992351923499231992301922f9922f1922e9922e1922d9922c1922b9922b1922a9922a192299922919228992281922799327192259922519324992241922299220993201931f9931f1931e9921c1921719216993131930b1920a9930919306992061930599205192049920419303993031920299202192019920119300802,
    0x194441944399442194419944119440994401943f9943f1943e9943e1943d9953d1943c9953b1943a9943a194399943919438994381943799437194369943619435994351943499431994301942f9942f1942e9942e1942d9942c1942b9942b1942a9942a194299942919428994281942799527194259942519524994241942299420995201951f9951f1951e9941c1941719416995131950b1940a9950919506994061950599405194049940419503995031940299402194019940119500802,
    0x196441964399642196419964119640996401963f9963f1963e9963e1963d9973d1963c9973b1963a9963a196399963919638996381963799637196369963619635996351963499631996301962f9962f1962e9962e1962d9962c1962b9962b1962a9962a196299962919628996281962799727196259962519724996241962299620997201971f9971f1971e9961c1961719616997131970b1960a9970919706996061970599605196049960419703997031960299602196019960119700802,
    0x198441984399842198419984119840998401983f9983f1983e9983e1983d9993d1983c9993b1983a9983a198399983919838998381983799837198369983619835998351983499831998301982f9982f1982e9982e1982d9982c1982b9982b1982a9982a198299982919828998281982799927198259982519924998241982299820999201991f9991f1991e9981c1981719816999131990b1980a9990919906998061990599805198049980419903999031980299802198019980119900802,
    0x19a4419a4399a4219a4199a4119a4099a4019a3f99a3f19a3e99a3e19a3d99b3d19a3c99b3b19a3a99a3a19a3999a3919a3899a3819a3799a3719a3699a3619a3599a3519a3499a3199a3019a2f99a2f19a2e99a2e19a2d99a2c19a2b99a2b19a2a99a2a19a2999a2919a2899a2819a2799b2719a2599a2519b2499a2419a2299a2099b2019b1f99b1f19b1e99a1c19a1719a1699b1319b0b19a0a99b0919b0699a0619b0599a0519a0499a0419b0399b0319a0299a0219a0199a0119b00802,
    0x19c4419c4399c4219c4199c4119c4099c4019c3f99c3f19c3e99c3e19c3d99d3d19c3c99d3b19c3a99c3a19c3999c3919c3899c3819c3799c3719c3699c3619c3599c3519c3499c3199c3019c2f99c2f19c2e99c2e19c2d99c2c19c2b99c2b19c2a99c2a19c2999c2919c2899c2819c2799d2719c2599c2519d2499c2419c2299c2099d2019d1f99d1f19d1e99c1c19c1719c1699d1319d0b19c0a99d0919d0699c0619d0599c0519c0499c0419d0399d0319c0299c0219c0199c0119d00802,
    0x19e4419e4399e4219e4199e4119e4099e4019e3f99e3f19e3e99e3e19e3d99f3d19e3c99f3b19e3a99e3a19e3999e3919e3899e3819e3799e3719e3699e3619e3599e3519e3499e3199e3019e2f99e2f19e2e99e2e19e2d99e2c19e2b99e2b19e2a99e2a19e2999e2919e2899e2819e2799f2719e2599e2519f2499e2419e2299e2099f2019f1f99f1f19f1e99e1c19e1719e1699f1319f0b19e0a99f0919f0699e0619f0599e0519e0499e0419f0399f0319e0299e0219e0199e0119f00802,
    0x1a0441a0439a0421a0419a0411a0409a0401a03f9a03f1a03e9a03e1a03d9a13d1a03c9a13b1a03a9a03a1a0399a0391a0389a0381a0379a0371a0369a0361a0359a0351a0349a0319a0301a02f9a02f1a02e9a02e1a02d9a02c1a02b9a02b1a02a9a02a1a0299a0291a0289a0281a0279a1271a0259a0251a1249a0241a0229a0209a1201a11f9a11f1a11e9a01c1a0171a0169a1131a10b1a00a9a1091a1069a0061a1059a0051a0049a0041a1039a1031a0029a0021a0019a0011a100802,
    0x1a2441a2439a2421a2419a2411a2409a2401a23f9a23f1a23e9a23e1a23d9a33d1a23c9a33b1a23a9a23a1a2399a2391a2389a2381a2379a2371a2369a2361a2359a2351a2349a2319a2301a22f9a22f1a22e9a22e1a22d9a22c1a22b9a22b1a22a9a22a1a2299a2291a2289a2281a2279a3271a2259a2251a3249a2241a2229a2209a3201a31f9a31f1a31e9a21c1a2171a2169a3131a30b1a20a9a3091a3069a2061a3059a2051a2049a2041a3039a3031a2029a2021a2019a2011a300802,
    0x1a4441a4439a4421a4419a4411a4409a4401a43f9a43f1a43e9a43e1a43d9a53d1a43c9a53b1a43a9a43a1a4399a4391a4389a4381a4379a4371a4369a4361a4359a4351a4349a4319a4301a42f9a42f1a42e9a42e1a42d9a42c1a42b9a42b1a42a9a42a1a4299a4291a4289a4281a4279a5271a4259a4251a5249a4241a4229a4209a5201a51f9a51f1a51e9a41c1a4171a4169a5131a50b1a40a9a5091a5069a4061a5059a4051a4049a4041a5039a5031a4029a4021a4019a4011a500802,
    0x1a6441a6439a6421a6419a6411a6409a6401a63f9a63f1a63e9a63e1a63d9a73d1a63c9a73b1a63a9a63a1a6399a6391a6389a6381a6379a6371a6369a6361a6359a6351a6349a6319a6301a62f9a62f1a62e9a62e1a62d9a62c1a62b9a62b1a62a9a62a1a6299a6291a6289a6281a6279a7271a6259a6251a7249a6241a6229a6209a7201a71f9a71f1a71e9a61c1a6171a6169a7131a70b1a60a9a7091a7069a6061a7059a6051a6049a6041a7039a7031a6029a6021a6019a6011a700802,
    0x1a8441a8439a8421a8419a8411a8409a8401a83f9a83f1a83e9a83e1a83d9a93d1a83c9a93b1a83a9a83a1a8399a8391a8389a8381a8379a8371a8369a8361a8359a8351a8349a8319a8301a82f9a82f1a82e9a82e1a82d9a82c1a82b9a82b1a82a9a82a1a8299a8291a8289a8281a8279a9271a8259a8251a9249a8241a8229a8209a9201a91f9a91f1a91e9a81c1a8171a8169a9131a90b1a80a9a9091a9069a8061a9059a8051a8049a8041a9039a9031a8029a8021a8019a8011a900802,
    0x1aa441aa439aa421aa419aa411aa409aa401aa3f9aa3f1aa3e9aa3e1aa3d9ab3d1aa3c9ab3b1aa3a9aa3a1aa399aa391aa389aa381aa379aa371aa369aa361aa359aa351aa349aa319aa301aa2f9aa2f1aa2e9aa2e1aa2d9aa2c1aa2b9aa2b1aa2a9aa2a1aa299aa291aa289aa281aa279ab271aa259aa251ab249aa241aa229aa209ab201ab1f9ab1f1ab1e9aa1c1aa171aa169ab131ab0b1aa0a9ab091ab069aa061ab059aa051aa049aa041ab039ab031aa029aa021aa019aa011ab00802,
    0x1ac441ac439ac421ac419ac411ac409ac401ac3f9ac3f1ac3e9ac3e1ac3d9ad3d1ac3c9ad3b1ac3a9ac3a1ac399ac391ac389ac381ac379ac371ac369ac361ac359ac351ac349ac319ac301ac2f9ac2f1ac2e9ac2e1ac2d9ac2c1ac2b9ac2b1ac2a9ac2a1ac299ac291ac289ac281ac279ad271ac259ac251ad249ac241ac229ac209ad201ad1f9ad1f1ad1e9ac1c1ac171ac169ad131ad0b1ac0a9ad091ad069ac061ad059ac051ac049ac041ad039ad031ac029ac021ac019ac011ad00802,
    0x1ae441ae439ae421ae419ae411ae409ae401ae3f9ae3f1ae3e9ae3e1ae3d9af3d1ae3c9af3b1ae3a9ae3a1ae399ae391ae389ae381ae379ae371ae369ae361ae359ae351ae349ae319ae301ae2f9ae2f1ae2e9ae2e1ae2d9ae2c1ae2b9ae2b1ae2a9ae2a1ae299ae291ae289ae281ae279af271ae259ae251af249ae241ae229ae209af201af1f9af1f1af1e9ae1c1ae171ae169af131af0b1ae0a9af091af069ae061af059ae051ae049ae041af039af031ae029ae021ae019ae011af00802,
    0x1b0441b0439b0421b0419b0411b0409b0401b03f9b03f1b03e9b03e1b03d9b13d1b03c9b13b1b03a9b03a1b0399b0391b0389b0381b0379b0371b0369b0361b0359b0351b0349b0319b0301b02f9b02f1b02e9b02e1b02d9b02c1b02b9b02b1b02a9b02a1b0299b0291b0289b0281b0279b1271b0259b0251b1249b0241b0229b0209b1201b11f9b11f1b11e9b01c1b0171b0169b1131b10b1b00a9b1091b1069b0061b1059b0051b0049b0041b1039b1031b0029b0021b0019b0011b100802,
    0x1b2441b2439b2421b2419b2411b2409b2401b23f9b23f1b23e9b23e1b23d9b33d1b23c9b33b1b23a9b23a1b2399b2391b2389b2381b2379b2371b2369b2361b2359b2351b2349b2319b2301b22f9b22f1b22e9b22e1b22d9b22c1b22b9b22b1b22a9b22a1b2299b2291b2289b2281b2279b3271b2259b2251b3249b2241b2229b2209b3201b31f9b31f1b31e9b21c1b2171b2169b3131b30b1b20a9b3091b3069b2061b3059b2051b2049b2041b3039b3031b2029b2021b2019b2011b300802,
    0x1b4441b4439b4421b4419b4411b4409b4401b43f9b43f1b43e9b43e1b43d9b53d1b43c9b53b1b43a9b43a1b4399b4391b4389b4381b4379b4371b4369b4361b4359b4351b4349b4319b4301b42f9b42f1b42e9b42e1b42d9b42c1b42b9b42b1b42a9b42a1b4299b4291b4289b4281b4279b5271b4259b4251b5249b4241b4229b4209b5201b51f9b51f1b51e9b41c1b4171b4169b5131b50b1b40a9b5091b5069b4061b5059b4051b4049b4041b5039b5031b4029b4021b4019b4011b500802,
    0x1b6441b6439b6421b6419b6411b6409b6401b63f9b63f1b63e9b63e1b63d9b73d1b63c9b73b1b63a9b63a1b6399b6391b6389b6381b6379b6371b6369b6361b6359b6351b6349b6319b6301b62f9b62f1b62e9b62e1b62d9b62c1b62b9b62b1b62a9b62a1b6299b6291b6289b6281b6279b7271b6259b6251b7249b6241b6229b6209b7201b71f9b71f1b71e9b61c1b6171b6169b7131b70b1b60a9b7091b7069b6061b7059b6051b6049b6041b7039b7031b6029b6021b6019b6011b700802,
    0x1b8441b8439b8421b8419b8411b8409b8401b83f9b83f1b83e9b83e1b83d9b93d1b83c9b93b1b83a9b83a1b8399b8391b8389b8381b8379b8371b8369b8361b8359b8351b8349b8319b8301b82f9b82f1b82e9b82e1b82d9b82c1b82b9b82b1b82a9b82a1b8299b8291b8289b8281b8279b9271b8259b8251b9249b8241b8229b8209b9201b91f9b91f1b91e9b81c1b8171b8169b9131b90b1b80a9b9091b9069b8061b9059b8051b8049b8041b9039b9031b8029b8021b8019b8011b900802,
    0x1ba441ba439ba421ba419ba411ba409ba401ba3f9ba3f1ba3e9ba3e1ba3d9bb3d1ba3c9bb3b1ba3a9ba3a1ba399ba391ba389ba381ba379ba371ba369ba361ba359ba351ba349ba319ba301ba2f9ba2f1ba2e9ba2e1ba2d9ba2c1ba2b9ba2b1ba2a9ba2a1ba299ba291ba289ba281ba279bb271ba259ba251bb249ba241ba229ba209bb201bb1f9bb1f1bb1e9ba1c1ba171ba169bb131bb0b1ba0a9bb091bb069ba061bb059ba051ba049ba041bb039bb031ba029ba021ba019ba011bb00802,
    0x1bc441bc439bc421bc419bc411bc409bc401bc3f9bc3f1bc3e9bc3e1bc3d9bd3d1bc3c9bd3b1bc3a9bc3a1bc399bc391bc389bc381bc379bc371bc369bc361bc359bc351bc349bc319bc301bc2f9bc2f1bc2e9bc2e1bc2d9bc2c1bc2b9bc2b1bc2a9bc2a1bc299bc291bc289bc281bc279bd271bc259bc251bd249bc241bc229bc209bd201bd1f9bd1f1bd1e9bc1c1bc171bc169bd131bd0b1bc0a9bd091bd069bc061bd059bc051bc049bc041bd039bd031bc029bc021bc019bc011bd00802,
    0x1be441be439be421be419be411be409be401be3f9be3f1be3e9be3e1be3d9bf3d1be3c9bf3b1be3a9be3a1be399be391be389be381be379be371be369be361be359be351be349be319be301be2f9be2f1be2e9be2e1be2d9be2c1be2b9be2b1be2a9be2a1be299be291be289be281be279bf271be259be251bf249be241be229be209bf201bf1f9bf1f1bf1e9be1c1be171be169bf131bf0b1be0a9bf091bf069be061bf059be051be049be041bf039bf031be029be021be019be011bf00802,
    0x1c0441c0439c0421c0419c0411c0409c0401c03f9c03f1c03e9c03e1c03d9c13d1c03c9c13b1c03a9c03a1c0399c0391c0389c0381c0379c0371c0369c0361c0359c0351c0349c0319c0301c02f9c02f1c02e9c02e1c02d9c02c1c02b9c02b1c02a9c02a1c0299c0291c0289c0281c0279c1271c0259c0251c1249c0241c0229c0209c1201c11f9c11f1c11e9c01c1c0171c0169c1131c10b1c00a9c1091c1069c0061c1059c0051c0049c0041c1039c1031c0029c0021c0019c0011c100802,
    0x1c2441c2439c2421c2419c2411c2409c2401c23f9c23f1c23e9c23e1c23d9c33d1c23c9c33b1c23a9c23a1c2399c2391c2389c2381c2379c2371c2369c2361c2359c2351c2349c2319c2301c22f9c22f1c22e9c22e1c22d9c22c1c22b9c22b1c22a9c22a1c2299c2291c2289c2281c2279c3271c2259c2251c3249c2241c2229c2209c3201c31f9c31f1c31e9c21c1c2171c2169c3131c30b1c20a9c3091c3069c2061c3059c2051c2049c2041c3039c3031c2029c2021c2019c2011c300802,
    0x1c4441c4439c4421c4419c4411c4409c4401c43f9c43f1c43e9c43e1c43d9c53d1c43c9c53b1c43a9c43a1c4399c4391c4389c4381c4379c4371c4369c4361c4359c4351c4349c4319c4301c42f9c42f1c42e9c42e1c42d9c42c1c42b9c42b1c42a9c42a1c4299c4291c4289c4281c4279c5271c4259c4251c5249c4241c4229c4209c5201c51f9c51f1c51e9c41c1c4171c4169c5131c50b1c40a9c5091c5069c4061c5059c4051c4049c4041c5039c5031c4029c4021c4019c4011c500802,
    0x1c6441c6439c6421c6419c6411c6409c6401c63f9c63f1c63e9c63e1c63d9c73d1c63c9c73b1c63a9c63a1c6399c6391c6389c6381c6379c6371c6369c6361c6359c6351c6349c6319c6301c62f9c62f1c62e9c62e1c62d9c62c1c62b9c62b1c62a9c62a1c6299c6291c6289c6281c6279c7271c6259c6251c7249c6241c6229c6209c7201c71f9c71f1c71e9c61c1c6171c6169c7131c70b1c60a9c7091c7069c6061c7059c6051c6049c6041c7039c7031c6029c6021c6019c6011c700802],
  [0x1c8441c8439c8421c8419c8411c8409c8401c83f9c83f1c83e9c83e1c83d9c93d1c83c9c93b1c83a9c83a1c8399c8391c8389c8381c8379c8371c8369c8361c8359c8351c8349c8319c8301c82f9c82f1c82e9c82e1c82d9c82c1c82b9c82b1c82a9c82a1c8299c8291c8289c8281c8279c9271c8259c8251c9249c8241c8229c8209c9201c91f9c91f1c91e9c81c1c8171c8169c9131c90b1c80a9c9091c9069c8061c9059c8051c8049c8041c9039c9031c8029c8021c8019c8011c900802,
    0x1ca441ca439ca421ca419ca411ca409ca401ca3f9ca3f1ca3e9ca3e1ca3d9cb3d1ca3c9cb3b1ca3a9ca3a1ca399ca391ca389ca381ca379ca371ca369ca361ca359ca351ca349ca319ca301ca2f9ca2f1ca2e9ca2e1ca2d9ca2c1ca2b9ca2b1ca2a9ca2a1ca299ca291ca289ca281ca279cb271ca259ca251cb249ca241ca229ca209cb201cb1f9cb1f1cb1e9ca1c1ca171ca169cb131cb0b1ca0a9cb091cb069ca061cb059ca051ca049ca041cb039cb031ca029ca021ca019ca011cb00802,
    0x1cc441cc439cc421cc419cc411cc409cc401cc3f9cc3f1cc3e9cc3e1cc3d9cd3d1cc3c9cd3b1cc3a9cc3a1cc399cc391cc389cc381cc379cc371cc369cc361cc359cc351cc349cc319cc301cc2f9cc2f1cc2e9cc2e1cc2d9cc2c1cc2b9cc2b1cc2a9cc2a1cc299cc291cc289cc281cc279cd271cc259cc251cd249cc241cc229cc209cd201cd1f9cd1f1cd1e9cc1c1cc171cc169cd131cd0b1cc0a9cd091cd069cc061cd059cc051cc049cc041cd039cd031cc029cc021cc019cc011cd00802,
    0x1ce441ce439ce421ce419ce411ce409ce401ce3f9ce3f1ce3e9ce3e1ce3d9cf3d1ce3c9cf3b1ce3a9ce3a1ce399ce391ce389ce381ce379ce371ce369ce361ce359ce351ce349ce319ce301ce2f9ce2f1ce2e9ce2e1ce2d9ce2c1ce2b9ce2b1ce2a9ce2a1ce299ce291ce289ce281ce279cf271ce259ce251cf249ce241ce229ce209cf201cf1f9cf1f1cf1e9ce1c1ce171ce169cf131cf0b1ce0a9cf091cf069ce061cf059ce051ce049ce041cf039cf031ce029ce021ce019ce011cf00802,
    0x1d0441d0439d0421d0419d0411d0409d0401d03f9d03f1d03e9d03e1d03d9d13d1d03c9d13b1d03a9d03a1d0399d0391d0389d0381d0379d0371d0369d0361d0359d0351d0349d0319d0301d02f9d02f1d02e9d02e1d02d9d02c1d02b9d02b1d02a9d02a1d0299d0291d0289d0281d0279d1271d0259d0251d1249d0241d0229d0209d1201d11f9d11f1d11e9d01c1d0171d0169d1131d10b1d00a9d1091d1069d0061d1059d0051d0049d0041d1039d1031d0029d0021d0019d0011d100802,
    0x1d2441d2439d2421d2419d2411d2409d2401d23f9d23f1d23e9d23e1d23d9d33d1d23c9d33b1d23a9d23a1d2399d2391d2389d2381d2379d2371d2369d2361d2359d2351d2349d2319d2301d22f9d22f1d22e9d22e1d22d9d22c1d22b9d22b1d22a9d22a1d2299d2291d2289d2281d2279d3271d2259d2251d3249d2241d2229d2209d3201d31f9d31f1d31e9d21c1d2171d2169d3131d30b1d20a9d3091d3069d2061d3059d2051d2049d2041d3039d3031d2029d2021d2019d2011d300802,
    0x1d4441d4439d4421d4419d4411d4409d4401d43f9d43f1d43e9d43e1d43d9d53d1d43c9d53b1d43a9d43a1d4399d4391d4389d4381d4379d4371d4369d4361d4359d4351d4349d4319d4301d42f9d42f1d42e9d42e1d42d9d42c1d42b9d42b1d42a9d42a1d4299d4291d4289d4281d4279d5271d4259d4251d5249d4241d4229d4209d5201d51f9d51f1d51e9d41c1d4171d4169d5131d50b1d40a9d5091d5069d4061d5059d4051d4049d4041d5039d5031d4029d4021d4019d4011d500802,
    0x1d6441d6439d6421d6419d6411d6409d6401d63f9d63f1d63e9d63e1d63d9d73d1d63c9d73b1d63a9d63a1d6399d6391d6389d6381d6379d6371d6369d6361d6359d6351d6349d6319d6301d62f9d62f1d62e9d62d9d62c1d62b9d62b1d62a9d62a1d6299d6291d6289d6281d6279d7271d9259d8251d7249d6241d6229d6209d7201d71f9d71f1d71e9d61c1d6171d6169d70b1d60a9d7091d7069d6061d7059d6051d6049d6041d7039d7031d6029d6021d6019d601005,
    0x1da441da439da421da419da411da409da401da3f9da3f1da3e9da3e1da3d9db3d1da3c9db3b1da3a9da3a1da399da391da389da381da379da371da369da361da359da351da349da319da301da2f9da2f1da2e9da2d9da2c1da2b9da2b1da2a9da2a1da299da291da289da281da279db271da259db249da241da229da209db201db1f9db1f1db1e9da1c1da171da169db131db0b1da0a9db091db069da061db059da051da049da041db039db031da029da021da019da011db00802,
    0x1dc441dc439dc421dc419dc411dc409dc401dc3f9dc3f1dc3e9dc3e1dc3d9dd3d1dc3c9dd3b1dc3a9dc3a1dc399dc391dc389dc381dc379dc371dc369dc361dc359dc351dc349dc319dc301dc2f9dc2f1dc2e9dc2d9dc2c1dc2b9dc2b1dc2a9dc2a1dc299dc291dc289dc281dc279dd271dc259dd249dc241dc229dc209dd201dd1f9dd1f1dd1e9dc1c1dc171dc169dd131dd0b1dc0a9dd091dd069dc061dd059dc051dc049dc041dd039dd031dc029dc021dc019dc011dd00802,
    0x1de441de439de421de419de411de409de401de3f9de3f1de3e9de3e1de3d9df3d1de3c9df3b1de3a9de3a1de399de391de389de381de379de371de369de361de359de351de349de319de301de2f9de2f1de2e9e02e1de2d9de2c1de2b9de2b1de2a9de2a1de299de291de289de281de279df271de259df249de241de229de209df201df1f9df1f1df1e9de1c1de171de169df131df0b1de0a9df069de061df059de051de049de041df039df031de029de021de019de011df00802,
    0x1e1441e1439e1421e1419e1411e1409e1401e13f9e13f1e13e9e13e1e13d9e23d1e13c9e23b1e13a9e13a1e1399e1391e1389e1381e1379e1371e1369e1361e1359e1351e1349e1319e1301e12f9e12f1e12e9e12d9e12c1e12b9e12b1e12a9e12a1e1299e1291e1289e1281e1279e2271e1259e2249e1241e1229e1209e2201e21f9e21f1e21e9e11c1e1171e1169e2131e20b1e10a9e2091e2069e1061e2059e1051e1049e1041e2039e2031e1029e1021e1019e1011e200802,
    0x1e3441e3439e3421e3419e3411e3409e3401e33f9e33f1e33e9e33e1e33d9e43d1e33c9e43b1e33a9e33a1e3399e3391e3389e3381e3379e3371e3369e3361e3359e3351e3349e3319e3301e32f9e32f1e32e9e32d9e32c1e32b9e32b1e32a9e32a1e3299e3291e3289e3281e3279e4271e3259e4249e3241e3229e3209e4201e41f9e41f1e41e9e31c1e3171e3169e4131e40b1e30a9e4091e4069e3061e4059e3051e3049e3041e4039e4031e3029e3021e3019e3011e400802,
    0x1e52e1de25000131df09000008cb, 0x1d6259d6250c8,
    0x1e6441e6439e6421e6419e6411e6409e6401e63f9e63f1e63e9e63e1e63d9e73d1e63c9e73b1e63a9e63a1e6399e6391e6389e6381e6379e6371e6369e6361e6359e6351e6349e6319e6301e62f9e62f1e62e9e62d9e62c1e62b9e62b1e62a9e62a1e6299e6291e6289e6281e6279e7271e6259e7249e6241e6229e6209e7201e71f9e71f1e71e9e61c1e6171e6169e70b1e60a9e7091e7069e6061e7059e6051e6049e6041e7039e7031e6029e6021e6019e601009,
    0x1e8441e8439e8421e8419e8411e8409e8401e83f9e83f1e83e9e83e1e83d9e93d1e83c9e93b1e83a9e83a1e8399e8391e8389e8381e8379e8371e8369e8361e8359e8351e8349e8319e8301e82f9e82f1e82e9e82d9e82c1e82b9e82b1e82a9e82a1e8299e8291e8289e8281e8279e9271e8259e9249e8241e8229e8209e9201e91f9e91f1e91e9e81c1e8171e8169e90b1e80a9e9091e9069e8061e9059e8051e8049e8041e9039e9031e8029e8021e8019e801009,
    0x1ea441ea439ea421ea419ea411ea409ea401ea3f9ea3f1ea3e9ea3e1ea3d9eb3d1ea3c9eb3b1ea3a9ea3a1ea399ea391ea389ea381ea379ea371ea369ea361ea359ea351ea349ea319ea301ea2f9ea2f1ea2e9ea2d9ea2c1ea2b9ea2b1ea2a9ea2a1ea299ea291ea289ea281ea279eb271ea259eb249ea241ea229ea209eb201eb1f9eb1f1eb1e9ea1c1ea171ea169eb0b1ea0a9eb091eb069ea061eb059ea051ea049ea041eb039eb031ea029ea021ea019ea01009,
    0x1ec441ec439ec421ec419ec411ec409ec401ec3f9ec3f1ec3e9ec3e1ec3d9ed3d1ec3c9ed3b1ec3a9ec3a1ec399ec391ec389ec381ec379ec371ec369ec361ec359ec351ec349ec319ec301ec2f9ec2f1ec2e9ec2d9ec2c1ec2b9ec2b1ec2a9ec2a1ec299ec291ec289ec281ec279ed271ec259ed249ec241ec229ec209ed201ed1f9ed1f1ed1e9ec1c1ec171ec169ed0b1ec0a9ed091ed069ec061ed059ec051ec049ec041ed039ed031ec029ec021ec019ec01009,
    0x1ee421ee419ee411ee409ee401ee3f9ee3f1ee3e9ee3e1ee3d9ef3d1ee3c9ef3b1ee3a9ee3a1ee399ee391ee389ee381ee379ee371ee369ee360003500034800329ee31800300002f9ee2f1ee2b000269ee25800249ee22800218001e0001d1ee1c1ee130000b800091ee0102c,
    174141652, 0x3d8003d0003c800361ef2f000228a71d0a70b8d5,
    0x1f3441f23c9f23a9f2349f2301f22f9f12a80024000200001f8001f0001e80017000169f00b1f40102d, 525340887,
    0x3d8003d0003c80036000350003480032800300002f8a72f00024800228a71b0a71a0a7198a7190a71780012000118001100010800100000f8000f0000e8000e0000d8000d02c,
    0x1450014482d4202d4182c4102c4082b4002b3f82b3f02b3e82b3e02a3d8293d1f93c8273b00b3a80b3a00b3980b3900b3880b3800b3780b3700b36825361f83181f2f00b2b1f72700b258112480f2280b1c009131f6091fa01000,
    0x1fc271fb090da, 0x1fe271fd090da,
    0x20e4220e41a0d4120d40a0c4020c3fa0c3f20c3ea0c3e20b3da0a3d2093ca083b2013aa013a20139a013920138a013820137a013720136a073620631a052f2012b2042720125a0324a0222a011c200131ff0920f010da,
    553685211,
    0x14500144a1b3ca1b3aa1b34a1b3021b2fa162f21b2aa132721126a1b26214232152221321a1421213202131fa111e2131da131d21a1ca111ba111b2111aa111a21119a111921118a111821117a111721116a131621315a131521314a131421313a121321112a191221911a191121910a19102190fa190f2190ea190e2190da190d2180ca110c2130ba170b2130921b01000,
    0x21b43a16428002700026a1e22000218001e21f1d21d0c21c0b800090df],
  [0x2110c2200b8e0, 0xb31a222700024a2109223010da, 0x22527224090e2,
    0x270002600021a261ca291222911a291122910a29102290fa290f2290ea290e2290da290d2280c8000ba270b000090df,
    0x2374223741a364123640a35402353fa353f2353ea353e2343da333d2323ca313b22c3aa2c3a22c39a2c3922c38a2c3822c37a2c3722c36a303622c31a2f2f22c2b22e2722c25a2d22a2c1c22b1322a09238010e2,
    0x2700026000218000ba270b000090df, 0x2680021a391e0001d0000b800090df, 0x268001e2130ba3a0b0e6,
    598860007, 599908583,
    0x42000418004100040800400003f8003f0003e8003e0223c8003b0223a8003a000398003900038800380003780037000368223480031822300222f8002f0002b0aa2a800258001d0001c0000ba3d010d6,
    0x3ca3f270001323e090e2, 0x24127240090ec,
    0x24d4224d41a4c4124c40a4b4024b3fa4b3f24b3ea4b3e24a3da493d2483b2433aa433a24339a433924338a433824337a433724336a473624331a462f2432b2452724325a4422a431c2420924e010ec,
    0x3c8003a80034800300002f8002f0002aa1326800262132321322213212131ba1113000010df,
    0x2502725026a50232502225021a5021250202501fa4f1e2501da501d2501ca501ba4f1b24f1aa4f1a24f19a4f1924f18a4f1824f17a4f1724f16a501625015a501525014a501425013a4f1324f12a501225011a501125010a50102500fa500f2500ea500e2500da500d24f0ca4f0c2500ba50090ef,
    0x2522725226a52232522225221a5221252202521fa511e2521da521d2521ca521ba511b2511aa511a25119a511925118a511825117a511725116a521625215a521525214a521425213a511325112a521225211a521125210a52102520fa520f2520ea520e2520da520d2510ca510c2520ba52090ef,
    0x14500144a533ca533aa5334a53302532f8bf2f2532aa542725326a54232542225421a5521254202541fa531e2541da541d2541ca531ba541b2531aa541a25419a541925318a531825417a531725316a541625415a541525414a541425413a531325312a530c2540ba540925301000,
    0x2563ca563aa5634a56302562fa592f2562aa572725626a57232572225721a5821257202571fa561e2571da571d2571ca561ba571b2561aa571a25719a571925618a561825717a561725616a571625715a571525714a571425713a561325612a560c2570ba5709256010f2,
    45296,
    0x25b2725b26a5b2325b2225b21a5b2125b2025b1fa5a1e25b1da5b1d25b1ca5b1ba5a1b25a1aa5a1a25a19a5a1925a18a5a1825a17a5a1725a16a5b1625b15a5b1525b14a5b1425b13a5a1325a12a5b1225b11a5b1125b10a5b1025b0fa5b0f25b0ea5b0e25b0da5b0d25a0ca5a0c25b0ba5b090f4,
    45297, 0x3c8003a80034800300002f8002aa1326a131ba170b000010e4,
    0x25c3ca5c3aa5c34a5c3025c2fa5c2aa5d2725c26800230002225d21a5d2025d1fa5d1e25d1da5d1d25d1ca5c1ba5d1b25c1aa5d1a25d19a5d1925c18a5c1825d17a5c1725c16a5d1625d15a5d1525d14a5d1425d13a5c1325c12a5c0c25d0ba5d0925c010f2,
    0x25e3ca5e3aa5e34a5e3025e2fa5e2aa5f2725e26a5f21a5f2025f1fa5f1e25f1da5f1d25f1ca5e1ba5f1b25e1aa5f1a25f19a5f1925e18a5e1825f17a5e1725e16a5f1625f15a5f1525f14a5f1425f13a5e1325e12a5e0c25f0ba5f0925e010f8,
    0x1c8000b0ef, 0x2f213232132221321211132270b0f7, 0x27000218000ba270b000090ef,
    0x268001e21f1d2200ba170b0fc,
    0x21b3ca1b3aa1b34a1b3021b2fa162f21b2aa162721b26a622221621a1621216202161fa161e2161da161d2161ca1b1ba161b21b1aa161a21619a161921b18a1b1821617a1b1721b16a161621615a161521614a161421613a601321b12a1b0c2160ba610b2160921b010f8,
    0x2162f2142321522214210001d212132630ca130b8fd, 561033467],
  [0x2131d2130ba3a0b0fd,
    0x145001448bf2f2652726526a65232652226521a6621265202651fa641e2651da651d2651ca651ba651b2641aa651a26519a651926418a641826517a641726416a651626515a651526514a651426513a641326412a640c2650ba6509000,
    0x2682726826a68232682226821a68202681fa671e2681da681d2681ca681ba681b2671aa681a26819a681926718a671826817a671726716a681626815a681526814a681426813a671326712a670c2680ba6809102,
    0x2693ca693aa6934a69302692fa6a2f2692aa6a2726926a6b2226a21a6a2126a2026a1fa6a1e26a1da6a1d26a1ca691ba6a1b2691aa6a1a26a19a6a1926918a691826a17a691726916a6a1626a15a6a1526a14a6a1426a13a691326912a690c26a0ba6a09269010fe,
    0x26d2726d26a6d2326d2226d21a6d2026d1fa6c1e26d1da6d1d26d1ca6d1ba6d1b26c1aa6d1a26d19a6d1926c18a6c1826d17a6c1726c16a6d1626d15a6d1526d14a6d1426d13a6c1326c12a6c0c26d0ba6d09102,
    0x26f2726f26a6f2326f2226f21a6f2026f1fa6e1e26f1da6f1d26f1ca6f1ba6f1b26e1aa6f1a26f19a6f1926e18a6e1826f17a6e1726e16a6f1626f15a6f1526f14a6f1426f13a6e1326e12a6e0c26f0ba6f09102,
    0x3c8003a80034a70300002f8002a8a71b800010eb, 0x300a61ba7101107, 0x1d2630ca130b8fd,
    0x2733ca733aa7334a73302732fa722f2732aa722727326a722227221a7221272202721fa721e2721da721d2721ca731ba721b2731aa721a27219a721927318a731827217a731727316a721627215a721527214a721427213a731327312a730c2720ba720b27209273010f8,
    45310,
    0x2753ca753aa7534a75302752fa742f2752aa742727526a742227421a7421274202741fa741e2741da741d2741ca751ba741b2751aa741a27419a741927518a751827417a751727516a741627415a741527414a741427413a751327512a750c2740ba740b27409275010f8,
    0x2773ca773aa7734a77302772fa762f2772aa762727726a762227621a7621276202761fa761e2761da761d2761ca771ba761b2771aa761a27619a761927718a771827617a771727716a761627615a761527614a761427613a771327712a770c2760ba760b27609277010f8,
    0x2572f257210f3,
    0x2793ca793aa7934a79302792fa782f2792aa782727926a782227821a7821278202781fa781e2781da781d2781ca791ba781b2791aa781a27819a781927918a791827817a791727916a781627815a781527814a781427813a791327912a790c2780ba780b27809279010f8,
    0x27a3ca7a3aa7a34a7a3027a2fa7b2f27a2aa7b2727a26a7b2327b2227b21a7b2127b2027b1fa7a1e27b1da7b1d27b1ca7a1ba7b1b27a1aa7b1a27b19a7b1927a18a7a1827b17a7a1727a16a7b1627b15a7b1527b14a7b1427b13a7a1327a12a7a0c27b0ba7b0927a010f2,
    0x27d3ca7d3aa7d34a7d3027d2fa7c2f27d2aa7c2727d26a7c2227c21a7c2127c2027c1fa7c1e27c1da7c1d27c1ca7d1ba7c1b27d1aa7c1a27c19a7c1927d18a7d1827c17a7d1727d16a7c1627c15a7c1527c14a7c1427c13a7d1327d12a7d0c27c0ba7c0b27c0927d010f8,
    0x27e130000b104, 0x2131c8000b0fb,
    0x3d8003d0c13b0be3a8be3a0be398be390be388be380be378be370be36800360be318bf2f0be2b000270be25800228be1c0bd0b800090ec,
    0x2822f2802728026a80232802228021a8121280202801fa7f1e2801da801d2801ca801ba801b27f1aa801a28019a801927f18a7f1828017a7f1727f16a801628015a801528014a801428013a7f1327f12a7f0c2800ba8009102,
    0x2844228441a844128440a84402843fa843f2843ea843e2843da833d2843ca833b2843aa843a28439a843928438a843828437a843728436a84362843528434a8432a8431a84302842fa842f2842b2832728425a8324a8422a83222831d2841c283132830b00009284010da,
    0x2853ca853aa8534a85302852fa862f2852aa862728526a862228621a8621286202861fa861e2861da861d2861ca851ba861b2851aa861a28619a861928518a851828617a851728516a861628615a861528614a861428613a851328512a850c2860ba8609285010f8,
    0x3d8003d0003b0003a000398003900038800380003780037000368003600035800350003194d2f0002e8002e0002d8002c0002b8002b0002a0002980029000288002800027800258002500024800228001c000130000900000882,
    0x2873ca873aa8734a87302872fa882f2872aa882728726a882228821a8821288202881fa881e2881da881d2881ca871ba881b2871aa881a28819a881928718a871828817a871728716a881628815a881528814a881428813a871328712a870c2880ba8809287010f8,
    0x2893ca893aa8934a89302892fa8a2f2892aa8a2728926a8a2228a21a8a2128a2028a1fa8a1e28a1da8a1d28a1ca891ba8a1b2891aa8a1a28a19a8a1928918a891828a17a891728916a8a1628a15a8a1528a14a8a1428a13a891328912a890c28a0ba8a09289010f8,
    0x3d8003d0003b0003a00039800390003880038000378003700036800360003580035000319712f0002e8002e0002d8002c0002b8002b0002a0002980029000288002800027800258002500024800228001c000130000900000895,
    0x28b3ca8b3aa8b34a8b3028b2fa8c2f28b2aa8c2728b26a8c2228c21a8c2128c2028c1fa8c1e28c1da8c1d28c1ca8b1ba8c1b28b1aa8c1a28c19a8c1928b18a8b1828c17a8b1728b16a8c1628c15a8c1528c14a8c1428c13a8b1328b12a8b0c28c0ba8c0928b010f8,
    45316,
    0x28d3ca8d3aa8d34a8d3028d2fa8e2f28d2aa8e2728d26a8e21a8e2128e2028e1fa8e1e28e1da8e1d28e1ca8d1ba8e1b28d1aa8e1a28e19a8e1928d18a8d1828e17a8d1728d16a8e1628e15a8e1528e14a8e1428e13a8d1328d12a8d0c28e0ba8e0928d010f8,
    0x28f3ca8f3aa8f34a8f3028f2fa902f28f2aa902728f26a9021a9021290202901fa901e2901da901d2901ca8f1ba901b28f1aa901a29019a901928f18a8f1829017a8f1728f16a901629015a901529014a901429013a8f1328f12a8f0c2900ba900928f010f8,
    139549],
  [0x2913ca913aa9134a91302912fa922f2912aa922729126a9221a9221292202921fa921e2921da921d2921ca911ba921b2911aa921a29219a921929118a911829217a911729116a921629215a921529214a921429213a911329112a910c2920ba9209291010f8,
    691058964,
    0x145001449f23c9f23a9f2349f2301f22f9f12aa952729426a9521a95202951fa951e2951da951d2951ca941ba951b2941aa951a29519a951929418a941829517a941729416a951629515a951529514a951429513a941329412a940c2950ba950929601000,
    0x2982729726a9821a98202981fa981e2981da981d2981ca971ba981b2971aa981a29819a981929718a971829817a971729716a981629815a981529814a981429813a971329712a970c2980ba980929901123,
    47380,
    0x2162f2142321522214212131b2131a21319a131921317a121300012000118001100010800100000f8000f0000e8000e0000d8000d0000c8ef,
    0x2f000210f9,
    0x29b4229b41a9b4129b40a9b4029b3fa9b3f29b3ea9b3e29b3da9a3d29b3ca9a3b29b3aa9b3a29b39a9b3929b38a9b3829b37a9b3729b36a9b3629b3529b31a9b3029b2fa9b2f29b2b29b25a9b22a9d2229b1c29a1329c0b29b01125,
    0x2f29f2729f26aa024a9f2329f2229f21a9f2129f2029f1fa9e1e29f1da9f1d29f1ca9f1ba9f1b29e1aa9f1a29f19a9f1929e18a9e1829f17a9e1729e16a9f1629f15a9f1529f14a9f1429f13a9e1329e12a9e0c29f0ba9f09102,
    0x2a2272a226aa2232a2222a221aa2212a2202a21faa11e2a21daa21d2a21caa21baa21b2a11aaa21a2a219aa2192a118aa1182a217aa1172a116aa2162a215aa2152a214aa2142a213aa1132a112aa10c2a20baa209129,
    0x2a4272a426aa4232a4222a421aa4212a4202a41faa31e2a41daa41d2a41caa41baa41b2a31aaa41a2a419aa4192a318aa3182a417aa3172a316aa4162a415aa4152a414aa4142a413aa3132a312aa30c2a40baa409129,
    0x2a6272a626aa6232a6222a621aa6212a6202a61faa51e2a61daa61d2a61caa61baa61b2a51aaa61a2a619aa6192a518aa5182a617aa5172a516aa6162a615aa6152a614aa6142a613aa5132a512aa50c2a60baa609129,
    0x2f21323213222132121113126,
    0x2a8272a826aa8232a8222a821aa8212a8202a81faa71e2a81daa81d2a81caa81baa81b2a71aaa81a2a819aa8192a718aa7182a817aa7172a716aa8162a815aa8152a814aa8142a813aa7132a712aa70c2a80baa809129,
    0x2aa272aa26aaa232aa222aa21aaa212aa202aa1faa91e2aa1daaa1d2aa1caaa1baaa1b2a91aaaa1a2aa19aaa192a918aa9182aa17aa9172a916aaa162aa15aaa152aa14aaa142aa13aa9132a912aa90c2aa0baaa09129,
    0x2ac272ac26aac232ac222ac21aac212ac202ac1faab1e2ac1daac1d2ac1caac1baac1b2ab1aaac1a2ac19aac192ab18aab182ac17aab172ab16aac162ac15aac152ac14aac142ac13aab132ab12aab0c2ac0baac09129,
    0x2ae272ae26aae232ae222ae21aae212ae202ae1faad1e2ae1daae1d2ae1caae1baae1b2ad1aaae1a2ae19aae192ad18aad182ae17aad172ad16aae162ae15aae152ae14aae142ae13aad132ad12aad0c2ae0baae09129,
    0x2501b2501a25019a50192501780012000118001100010800100000f8000f0000e8000e0000d8000d0000c8f0,
    0x2521b2521a25219a52192521780012000118001100010800100000f8000f0000e8000e0000d8000d0000c8f1,
    0x2b0422b041ab0412b040ab0402b03fab03f2b03eab03e2b03daaf3d2b03cab23b2b13aab13a2b139ab1392b138ab1382b137ab1372b136ab0362b13181f2f2b12b2b125ab022ab11c2af132b001125,
    0x2b5422b541ab5412b540ab5402b53fab53f2b53eab53e2b53dab33d2b53cab73b2b43aab43a2b439ab4392b438ab4382b437ab4372b436ab5362b431ab62f2b42b2b425ab522ab41c2b3132b501125,
    0x14500144a774427743a7642a774227741a774127740a77402773fa773f2773ea773e2773ca773c2773ba773aa7734a77302772fa762f2772aa76272772627624a7623277222762127720a761d27618a7612a760c2760ba760b27701000,
    0x2b9272b926ab924ab9232b9222b921ab9212b9202b91fab81e2b91dab91d2b91cab91bab91b2b81aab91a2b919ab9192b818ab8182b917ab8172b816ab9162b915ab9152b914ab9142b913ab8132b812ab80c2b90bab909129,
    0x2794427943a7842a794227941a794127940a79402793fa793f2793ea793e2793ca793c2793ba793aa7934a79302792fa782f2792aa78272792627824a7823279222782127920a781d27818a7812a780c2780ba780b27901136,
    0x2bb272bb26abb24abb232bb222bb21abb212bb202bb1faba1e2bb1dabb1d2bb1cabb1babb1b2ba1aabb1a2bb19abb192ba18aba182bb17aba172ba16abb162bb15abb152bb14abb142bb13aba132ba12aba0c2bb0babb09129,
    0x27d4427d43a7c42a7d4227d41a7d4127d40a7d4027d3fa7d3f27d3ea7d3e27d3ca7d3c27d3ba7d3aa7d34a7d3027d2fa7c2f27d2aa7c2727d2627c24a7c2327d2227c2127d20a7c1d27c18a7c12a7c0c27c0ba7c0b27d01136,
    0x2bd2f2bd272bd26abd232bd222bd21abd212bd202bd1fabc1e2bd1dabd1d2bd1cabd1babd1b2bc1aabd1a2bd19abd192bc18abc182bd17abc172bc16abd162bd15abd152bd14abd142bd13abc132bc12abc0c2bd0babd09102,
    0x2bf272bf26abf24abf232bf222bf21abf212bf202bf1fabe1e2bf1dabf1d2bf1cabf1babf1b2be1aabf1a2bf19abf192be18abe182bf17abe172be16abf162bf15abf152bf14abf142bf13abe132be12abe0c2bf0babf09129,
    0x2c12f2c1272c126ac1232c1222c121ac1212c1202c11fac01e2c11dac11d2c11cac11bac11b2c01aac11a2c119ac1192c018ac0182c117ac0172c016ac1162c115ac1152c114ac1142c113ac0132c012ac00c2c10bac109102,
    0x2f2c3272c326ac3232c3222c321ac3212c3202c31fac21e2c31dac31d2c31cac31bac31b2c21aac31a2c319ac3192c218ac2182c317ac2172c216ac3162c315ac3152c314ac3142c313ac2132c212ac20c2c30bac309102,
    0x2131c8000b12d,
    0x2c5272c526ac5232c5222c521ac5212c5202c51fac41e2c51dac51d2c51cac51bac51b2c41aac51a2c519ac5192c418ac4182c517ac4172c416ac5162c515ac5152c514ac5142c513ac4132c412ac40c2c50bac50913e],
  [0xc8270c826ac8232c7220c821ac6210c8200c81f8c71e0c81d8c81d0c81c8c81b8c81b0c71a8c81a0c8198c8190c7188c7180c8178c7170c7168c8160c8158c8150c8148c8140c8138c7130c7128c70c0c80b8c80913e,
    0x2ca272ca26aca232ca222ca21aca212ca202ca1fac91e2ca1daca1d2ca1caca1baca1b2c91aaca1a2ca19aca192c918ac9182ca17ac9172c916aca162ca15aca152ca14aca142ca13ac9132c912ac90c2ca0baca0913e,
    0x2cb422cb41acb412cb40acb402cb3facb3f2cb3eacb3e1ee3d9ef3d1ee3c9ef3b1ee3a9ee3a1ee399ee391ee389ee381ee379ee371ee369ee362cc351ee31acc302cc2facb2f1ee2b1ee259ee229ee1c1ef132cb01125,
    0x2ce272ce26ace232ce222ce21ace212ce202ce1facd1e2ce1dace1d2ce1cace1bace1b2cd1aace1a2ce19ace192cd18acd182ce17acd172cd16ace162ce15ace152ce14ace142ce13acd132cd12acd0c2ce0bace0913e,
    0x2d0272d026ad0232d0222d021ad0212d0202d01facf1e2d01dad01d2d01cad01bad01b2cf1aad01a2d019ad0192cf18acf182d017acf172cf16ad0162d015ad0152d014ad0142d013acf132cf12acf0c2d00bad00913e,
    0x2d2272d226ad2232d2222d221ad2212d2202d21fad11e2d21dad21d2d21cad21bad21b2d11aad21a2d219ad2192d118ad1182d217ad1172d116ad2162d215ad2152d214ad2142d213ad1132d112ad10c2d20bad20913e,
    0x2d4272d426ad4232d4222d421ad4212d4202d41fad31e2d41dad41d2d41cad41bad41b2d31aad41a2d419ad4192d318ad3182d417ad3172d316ad4162d415ad4152d414ad4142d413ad3132d312ad30c2d40bad40913e,
    0x2d6272d626ad6232d6222d621ad6212d6202d61fad51e2d61dad61d2d61cad61bad61b2d51aad61a2d619ad6192d518ad5182d617ad5172d516ad6162d615ad6152d614ad6142d613ad5132d512ad50c2d60bad60913e,
    0x2d8422d841ad8412d840ad8402d83fad83f2d83ead83e2d83dad73d2d83cad73b2d83aad83a2d839ad8392d838ad8382d837ad8372d836ad8362d8352d831ad8302d82fad82f2d82b2d825ad822ad81c2d7132d801125,
    0x2da272da26ada232da222da21ada212da202da1fad91e2da1dada1d2da1cada1bada1b2d91aada1a2da19ada192d918ad9182da17ad9172d916ada162da15ada152da14ada142da13ad9132d912ad90c2da0bada0913e,
    0x2dc272dc26adc232dc222dc21adc212dc202dc1fadb1e2dc1dadc1d2dc1cadc1badc1b2db1aadc1a2dc19adc192db18adb182dc17adb172db16adc162dc15adc152dc14adc142dc13adb132db12adb0c2dc0badc0913e,
    0x2de272de26ade232de222de21ade212de202de1fadd1e2de1dade1d2de1cade1bade1b2dd1aade1a2de19ade192dd18add182de17add172dd16ade162de15ade152de14ade142de13add132dd12add0c2de0bade0913e,
    0x2e0272e026ae0232e0222e021ae0212e0202e01fadf1e2e01dae01d2e01cae01bae01b2df1aae01a2e019ae0192df18adf182e017adf172df16ae0162e015ae0152e014ae0142e013adf132df12adf0c2e00bae00913e,
    0x2e2272e226ae221ae2202e21fae11e2e21dae21d2e21cae21bae21b2e11aae21a2e219ae2192e118ae1182e217ae1172e116ae2162e215ae2152e214ae2142e213ae1132e112ae10c2e20bae209141,
    0x2e4272e426ae4232e4222e421ae4212e4202e41fae31e2e41dae41d2e41cae41bae41b2e31aae41a2e419ae4192e318ae3182e417ae3172e316ae4162e415ae4152e414ae4142e413ae3132e312ae30c2e40bae40913e,
    0x2f26d21105,
    0x2e6272e626ae6232e6222e621ae6212e6202e61fae51e2e61dae61d2e61cae61bae61b2e51aae61a2e619ae6192e518ae5182e617ae5172e516ae6162e615ae6152e614ae6142e613ae5132e512ae50c2e60bae60913e,
    0x2e8272e826ae8232e8222e821ae8212e8202e81fae71e2e81dae81d2e81cae81bae81b2e71aae81a2e819ae8192e718ae7182e817ae7172e716ae8162e815ae8152e814ae8142e813ae7132e712ae70c2e80bae80913e,
    0x2ea422ea41aea412ea40aea402ea3faea3f2ea3eaea3e2ea3dae93d2ea3cae93b2ea3aaea3a2ea39aea392ea38aea382ea37aea372ea36aea362ea352ea31aea302ea2faea2f2ea2b2ea25aea22aea1c2e9132ea01125,
    0x2ec272ec26aec232ec222ec21aec212ec202ec1faeb1e2ec1daec1d2ec1caec1baec1b2eb1aaec1a2ec19aec192eb18aeb182ec17aeb172eb16aec162ec15aec152ec14aec142ec13aeb132eb12aeb0c2ec0baec0913e,
    0x2ee272ee26aee232ee222ee21aee212ee202ee1faed1e2ee1daee1d2ee1caee1baee1b2ed1aaee1a2ee19aee192ed18aed182ee17aed172ed16aee162ee15aee152ee14aee142ee13aed132ed12aed0c2ee0baee0913e,
    0x2f0272f026af2222f021af1212f0202f01faef1e2f01daf01d2f01caf01baf01b2ef1aaf01a2f019af0192ef18aef182f017aef172ef16af0162f015af0152f014af0142f013aef132ef12aef0c2f00baf009141,
    0x2f4272f426af4232f4222f421af4212f4202f41faf31e2f41daf41d2f41caf41baf41b2f31aaf41a2f419af4192f318af3182f417af3172f316af4162f415af4152f414af4142f413af3132f312af30c2f40baf40913e,
    0x2f6272f626af6232f6222f621af6212f6202f61faf51e2f61daf61d2f61caf61baf61b2f51aaf61a2f619af6192f518af5182f617af5172f516af6162f615af6152f614af6142f613af5132f512af50c2f60baf60913e,
    0x2f8272f826af8232f8222f821af8212f8202f81faf71e2f81daf81d2f81caf81baf81b2f71aaf81a2f819af8192f718af7182f817af7172f716af8162f815af8152f814af8142f813af7132f712af70c2f80baf80913e,
    0x2fa272fa26afa232fa222fa21afa212fa202fa1faf91e2fa1dafa1d2fa1cafa1bafa1b2f91aafa1a2fa19afa192f918af9182fa17af9172f916afa162fa15afa152fa14afa142fa13af9132f912af90c2fa0bafa0913e,
    0x2fc272fc26afc232fc222fc21afc212fc202fc1fafb1e2fc1dafc1d2fc1cafc1bafc1b2fb1aafc1a2fc19afc192fb18afb182fc17afb172fb16afc162fc15afc152fc14afc142fc13afb132fb12afb0c2fc0bafc0913e,
    0x2fe422fe41afe412fe40afe402fe3fafe3f2fe3eafe3e2fe3dafd3d2fe3cafd3b2fe3aafe3a2fe39afe392fe38afe382fe37afe372fe36afe362fe31afe2f2fe2b2fd272fe25afd24afe22afe1c2fd132fd092fe010da,
    0x3004230041b004130040b00403003fb003f3003eb003e3003daff3d3003caff3b3003ab003a30039b003930038b003830037b003730036b003630031b002f3002b2ff2730025aff24b0022b001c2ff132ff09300010da,
    0x3024230241b024130240b02403023fb023f3023eb023e3023db013d3023cb013b3023ab023a30239b023930238b023830237b023730236b023630231b022f3022b3012730225b0124b0222b021c3011330109302010da,
    0x3044230441b044130440b04403043fb043f3043eb043e3043db033d3043cb033b3043ab043a30439b043930438b043830437b043730436b04363043530431b04303042fb042f3042b30425b0422b041c3031330401125,
    0x3062730626b06233062230621b0621306203061fb051e3061db061d3061cb061bb061b3051ab061a30619b061930518b051830617b051730516b061630615b061530614b061430613b051330512b050c3060bb060913e],
  [0x3082730826b08233082230821b0821308203081fb071e3081db081d3081cb081bb081b3071ab081a30819b081930718b071830817b071730716b081630815b081530814b081430813b071330712b070c3080bb080913e,
    0x30a2730a26b0a2330a2230a21b0a2130a2030a1fb091e30a1db0a1d30a1cb0a1bb0a1b3091ab0a1a30a19b0a1930918b091830a17b091730916b0a1630a15b0a1530a14b0a1430a13b091330912b090c30a0bb0a0913e,
    0x30c2730c26b0c2330c2230c21b0c2130c2030c1fb0b1e30c1db0c1d30c1cb0c1bb0c1b30b1ab0c1a30c19b0c1930b18b0b1830c17b0b1730b16b0c1630c15b0c1530c14b0c1430c13b0b1330b12b0b0c30c0bb0c0913e,
    0x30e4230e41b0e4130e40b0e4030e3fb0e3f30e3eb0e3e30e3db0d3d30e3cb0d3b30e3ab0e3a30e39b0e3930e38b0e3830e37b0e3730e36b0e3630e31b0e2f30e2b30d2730e25b0d24b0e22b0e1c30d1330d0930e010da,
    0x3104231041b104131040b10403103fb103f3103eb103e3103db0f3d3103cb0f3b3103ab103a31039b103931038b103831037b103731036b103631031b102f3102b30f2731025b0f24b1022b101c30f1330f09310010da,
    0x3124231241b124131240b12403123fb123f3123eb123e3123db113d3123cb113b3123ab123a31239b123931238b123831237b123731236b123631231b122f3122b3112731225b1124b1222b121c3111331109312010da,
    0x3144231441b144131440b14403143fb143f3143eb143e3143db133d3143cb133b3143ab143a31439b143931438b143831437b143731436b143631431b142f3142b3132731425b1324b1422b141c3131331309314010da,
    0x3164231641b164131640b16403163fb163f3163eb163e3163db153d3163cb153b3163ab163a31639b163931638b163831637b163731636b16363163531631b16303162fb162f3162b31625b1622b161c3151331601125,
    0x3182731826b18233182231821b1821318203181fb171e3181db181d3181cb181bb181b3171ab181a31819b181931718b171831817b171731716b181631815b181531814b181431813b171331712b170c3180bb180913e,
    0x31a2731a26b1a2331a2231a21b1a2131a2031a1fb191e31a1db1a1d31a1cb1a1bb1a1b3191ab1a1a31a19b1a1931918b191831a17b191731916b1a1631a15b1a1531a14b1a1431a13b191331912b190c31a0bb1a0913e,
    0x31c2731c26b1c2331c2231c21b1c2131c2031c1fb1b1e31c1db1c1d31c1cb1c1bb1c1b31b1ab1c1a31c19b1c1931b18b1b1831c17b1b1731b16b1c1631c15b1c1531c14b1c1431c13b1b1331b12b1b0c31c0bb1c0913e,
    0x31e2731e26b1e2331e2231e21b1e2131e2031e1fb1d1e31e1db1e1d31e1cb1e1bb1e1b31d1ab1e1a31e19b1e1931d18b1d1831e17b1d1731d16b1e1631e15b1e1531e14b1e1431e13b1d1331d12b1d0c31e0bb1e0913e,
    0x3204232041b204132040b20403203fb203f3203eb203e3203db1f3d3203cb1f3b3203ab203a32039b203932038b203832037b203732036b203632031b202f3202b31f2732025b1f24b2022b201c31f1331f09320010da,
    0x3224232241b224132240b22403223fb223f3223eb223e3223db213d3223cb213b3223ab223a32239b223932238b223832237b223732236b223632231b222f3222b3212732225b2124b2222b221c3211332109322010da,
    0x3244232441b244132440b24403243fb243f3243eb243e3243db233d3243cb233b3243ab243a32439b243932438b243832437b243732436b243632431b242f3242b3232732425b2324b2422b241c3231332309324010da,
    0x3262732626b26233262232621b2621326203261fb251e3261db261d3261cb261bb261b3251ab261a32619b261932518b251832617b251732516b261632615b261532614b261432613b251332512b250c3260bb260913e,
    0x3282732826b28233282232821b2821328203281fb271e3281db281d3281cb281bb281b3271ab281a32819b281932718b271832817b271732716b281632815b281532814b281432813b271332712b270c3280bb280913e,
    0x32a4232a41b2a4132a40b2a4032a3fb2a3f32a3eb2a3e32a3db293d32a3cb293b32a3ab2a3a32a39b2a3932a38b2a3832a37b2a3732a36b2a3632a31b2a2f32a2b3292732a25b2924b2a22b2a1c329133290932a010da,
    45362, 0x25b1b25b1a25b19a5b1925b1780012000118001100010800100000f8000f0000e8000e0000d8000d0000c8f5,
    0x2700021a261c8000b80009126, 45363,
    0x1ee421ee419ee411ee409ee401ee3f9ee3f1ee3e9ee3e00035000300002f9ee2f11b0b1ee01143, 0x11248000b177,
    0x32c4232c41b2c4132c40b2c4032c3fb2c3f32c3eb2c3e32c3db2b3d32c3cb2b3b32c3ab2c3a32c39b2c3932c38b2c3832c37b2c3732c36b2c3632c31b2c2f32c2b32b2732c25b2c22b2c1c32b1332b0932c010e2,
    0x32e4232e41b2e4132e40b2e4032e3fb2e3f32e3eb2e3e32e3db2d3d32e3cb2d3b32e3ab2e3a32e39b2e3932e38b2e3832e37b2e3732e36b2e3632e31b2e2f32e2b32d2732e25b2e22b2e1c32d1332d0932e010e2,
    0x14500144b324233241b314133140b30403303fb303f3303eb303e0223c8223a82234822300222f8ab2f0aa2ab2f1c33301000,
    0x14500144a5343a534325442a533ca533c2533ba533aa5334a53302532f8bf2f2532aa54272532625325a5424a542325322334212531e2541d25418a5412a540ca540c2540ba5301000,
    0x25643a564325742a563ca563c2563ba563aa5634a56302562fa592f2562aa57272562625625a5724a572325622335212561e2571d25718a5712a570ca570c2570ba560117c,
    0x2700021a261c8000b8000912d, 0x2300022000210c81e141,
    0x3372733726b3721b37203371fb371e3371db371d3371cb371bb371b3361ab371a33719b371933618b361833717b361733616b371633715b371533714b371433713b361333612b360c3370bb370917f],
  [0x3392733926b3921b39203391fb391e3391db391d3391cb391bb391b3381ab391a33919b391933818b381833917b381733816b391633915b391533914b391433913b381333812b380c3390bb390917f,
    0x33b2733b26b3b21b3b2033b1fb3b1e33b1db3b1d33b1cb3b1bb3b1b33a1ab3b1a33b19b3b1933a18b3a1833b17b3a1733a16b3b1633b15b3b1533b14b3b1433b13b3a1333a12b3a0c33b0bb3b0917f,
    0x33d2733d26b3d21b3e2033e1fb3d1e33d1db3d1d33d1cb3d1bb3d1b33c1ab3d1a33d19b3d1933c18b3c1833d17b3c1733c16b3d1633d15b3d1533d14b3d1433d13b3c1333c12b3c0c33d0bb3d0917f,
    115067, 0x3c8003a80034800300002f8002aa9526a951b80001123, 0x23000220002133e2033e1fae21e14e,
    0x2e2202e21f986, 0x3c8003a80034800300002f8002aa9826a981b80001124,
    0x3402734026b4021b40203401fb401e3401db401d3401cb401bb401b33f1ab401a34019b401933f18b3f1834017b3f1733f16b401634015b401534014b401434013b3f1333f12b3f0c3400bb400917f,
    0x3422734226b4221b42203421fb421e3421db421d3421cb421bb421b3411ab421a34219b421934118b411834217b411734116b421634215b421534214b421434213b411334112b410c3420bb420917f,
    0x2300022000212f01e156,
    0x3442734426b4421b44203441fb441e3441db441d3441cb441bb441b3431ab441a34419b441934318b431834417b431734316b441634415b441534414b441434413b431334312b430c3440bb440917f,
    0x3462734626b4621b46203461fb461e3461db461d3461cb461bb461b3451ab461a34619b461934518b451834617b451734516b461634615b461534614b461434613b451334512b450c3460bb460917f,
    0x3482734826b4821b48203481fb481e3481db481d3481cb481bb481b3471ab481a34819b481934718b471834817b471734716b481634815b481534814b481434813b471334712b470c3480bb480917f,
    0x34a2734a26b4a21b4a2034a1fb4a1e34a1db4a1d34a1cb4a1bb4a1b3491ab4a1a34a19b4a1934918b491834a17b491734916b4a1634a15b4a1534a14b4a1434a13b491334912b490c34a0bb4a0917f,
    0x34c4234c41b4c4134c40b4c4034c3fb4c3f34c3eb4c3e34c3db4b3d34b3b34c3ab4c3a34c39b4c3934c38b4c3834c37b4c3734c36b4c3634c31b4c2f34c2b34b2734c25b4c22b4c1c34b0934c010ec,
    0x34e4234e41b4e4134e40b4e4034e3fb4e3f34e3eb4e3e34e3db4d3d34d3b34e3ab4e3a34e39b4e3934e38b4e3834e37b4e3734e36b4e3634e31b4e2f34e2b34d2734e25b4e22b4e1c34d0934e010ec,
    0x3504235041b504135040b50403503fb503f3503eb503e3503db4f3d34f3b3503ab503a35039b503935038b503835037b503735036b503635031b502f3502b34f2735025b5022b501c34f09350010ec,
    0x3524235241b524135240b52403523fb523f3523eb523e3523db513d3513b3523ab523a35239b523935238b523835237b523735236b523635231b522f3522b3512735225b5222b521c35109352010ec,
    0x3544235441b544135440b54403543fb543f3543eb543e3543db533d3533b3543ab543a35439b543935438b543835437b543735436b543635431b542f3542b3532735425b5422b541c35309354010ec,
    0x3564235641b564135640b56403563fb563f3563eb563e3563db553d3553b3563ab563a35639b563935638b563835637b563735636b563635631b562f3562b3552735625b5622b561c35509356010ec,
    0x3662736626b6621b661e3651db661d0001cb641bb621b3631ab621a35e19b611936018b5f1835e17b5d1735d16b5c1635b15b5a1535a14b591435913b581335812b570c3660bb6609183,
    0x33b2733b26b3b21b3b1e33b1d33b0bb3b09196,
    0x33d2733d26b3d21b3d1e33d1db3d1d33d1933c18b3d1633d15b3c0c33d0bb3d09196,
    0x33d1bb3d1533d14b3d1433d13b3c1333c12998, 0x33d1533d14998, 0x3611936018b570c198, 900815259,
    0x1cb5e19b5f1835e17983, 868321691, 896582040, 0x35d1735d1699d],
  [0x3672736726b6721b671e3671d3670bb6709196, 0x27368268002480021b691e3681c8000b80009137,
    0x2737a2680021b6a1e3791db781d36a1cb761b3771ab761a37219b751937418b731837217b711737116b701636f15b6e1536e14b6d1436d13b6c1336c12b6b0c0000b80009196,
    0x21327000268001e0001d0001c97e,
    0x3d8003d0003cb7c3b37b3ab7b3a37b39b7b3937b38b7b3837b37b7b3737b368003637b318bf2f37b2b37b2580022b7b1c00013134,
    0x3d8003d0003c8003600035000300002fa9a2f00022b7e2229a210001337d0b128,
    0x3d8003d0003cb813b37f3ab7f3a37f39b7f3937f38b7f3837f37b7f3737f368003637f31b802f37f2b37f2580022b7f1c00013135,
    0x3d8003d0003c80036000350003480032800300002fa832f000270002480022a83210001d00013116,
    0x273832680021b6a1e3821d0000b80009196, 0x268001e3681d0001cb680b9a2,
    0x29b4229b41a9b4129b40a9b4029b3fa9b3f29b3ea9b3e29b3ca9b3aa9b3529b34a9b3029b2fa9a2f29b2aa9a2729b263852229a1da9a1d29a1329a0bb840b29a0929b01184,
    0x2572f2572117d, 0x38627000268001e3861d3860bb86091a9,
    0x2d4202d4182c4102c4082b4002b3f82b3f02b3e82b3e0002f0d8263870bb8801184,
    0x27a43a7a4327b42a7a3ca7a3c27a3ba7a3aa7a34a7a3027a2fa7b2f27a2aa7b2727a2627a25a7b24a7b2327a2227b2127a1e27b1d27b18a7b12a7b0ca7b0c27b0ba7a0117c,
    0x38926b891e3891d3890b9a9, 0x26b8a22000218001e0001d0001c8000b80009141, 0x36626b661e3661d3661c9a3,
    0x33b26b3b1e33b1d33b1c9a3, 0x33d26b3d1e33d1db3d1d33d1cb3d1933c18b3d1633d15b3c0c1a3,
    0x33d1bb3d1533d14b3d1433d13b3c1333c129b4, 0x33d1533d149b4, 0x3751937418b6b0c1b4,
    0x3751937418b6f15b6b0c1b4, 0x2700021b7219b7318372178000b80009183, 0x3751936b0c1b4, 917553588,
    0x37117371169b9, 0x38926b891e3891d3891c9a3, 0x36726b671e3671d3671c9a3,
    0xa6420a6418a6410a6408a6400a63f8a63f0a63e8a63e0a63c8a63a8a6350a6348a6300a62f8a72f0a62a8a7270a6260a7220a71d8a71d0a7130a70b8a70b0a7090a601184,
    0x3d8003d0003b0003a00039800390003880038000378003700036800360003280031a832f0002b2842aa8426000258002480022a831d8001c2830ba8309116],
  [0x3c8003a80034800300002f8ab2f0002a8002638c1db8b128000ba23011ae, 0x38e27000268001e38d1d1a9,
    0x42000418004100040800400003f8003f0003e8003e391273901d38f0939201125, 0x268001e3930b9a9,
    0x394273941d3940b9c2, 0x273961d395091c2, 0x3981d3970b9c4, 0x3981d3990b9c4, 0x3981d39a0b9c4,
    0x3981d39b0b9c4, 0x3981d39c0b9c4, 47534, 0x3981d39d0b9c4, 0x3981d39e0b9c4, 0x3981d39f0b9c4,
    0x3d8003d0003c8003600035000300002fad72f00022ad72100013149,
    0x3d8003d0003c8003600035000300002fae92f00022ae92100013153,
    0x3d8003d0003c8003600035000300002fb032f00022b03210001315f,
    0x3d8003d0003c8003600035000300002fb152f00022b152100013168, 0xcc2e0cc288002300022000211b1,
    973154753, 0x3981d3a10b9c4, 0x3981d3a20b9c4, 0x3981d3a30b9c4, 0x3981d3a40b9c4, 0x3981d3a50b9c4,
    0x3981d3a60b9c4, 0x3981d3a70b9c4, 0x3981d3a80b9c4, 0x3981d3a90b9c4, 0x3981d3aa0b9c4,
    0x3981d3ab0b9c4],
  [0x3981d3ac0b9c4, 0x3981d3ad0b9c4, 0x3981d3ae0b9c4, 0x3981d3af0b9c4, 0x3981d3b00b9c4, 991064514,
    992113090,
    0x14500144bb643bb5429f23c9f23a9f2349f2301f22f8bf2f1f12abb42625f233b3223342125f0c25f0bbb701000,
    0x3b9273b81e0001d1c2,
    0x21b43a1642a1b3ca1b3c21b3ba1b3aa1b34a1b3021b2fa162f21b2aa162721b2621624a16233ba22216212161d216188681321612a160c2160ba1b011e8,
    0x3bc423bc41bbc413bc40bbc403bc3fbbc3f3bc3ebbc3e3bc3cbbc3abbc353bc34bbc303bc2fbbb2f3bc2abbc263bd1dbbd133bc01184,
    0x28543a8642a853ca853c2853ba853aa8534a85302852fa862f2852aa86272852628624a862328522286212861d28618a861328612a860c2860ba860b285011e8,
    0x28743a8842a873ca873c2873ba873aa8734a87302872fa882f2872aa88272872628824a882328722288212881d28818a881328812a880c2880ba880b287011e8,
    76225, 0x3c23dbc13d3c03cbbf360002f3be228001d809133c3011ee,
    0x28943a8a42a893ca893c2893ba893aa8934a89302892fa8a2f2892aa8a272892628a24a8a232892228a2128a1d28a18a8a1328a12a8a0c28a0ba8a0b289011e8,
    0x28b43a8c42a8b3ca8b3c28b3ba8b3aa8b34a8b3028b2fa8c2f28b2aa8c2728b2628c24a8c2328b2228c2128c1d28c18a8c1328c12a8c0c28c0ba8c0b28b011e8,
    0x3c4273c41d1c2, 0x1d3c5091c3, 0x3c6270001d3c60b9c2, 0x27000091ad, 1014010355, 0x273c81d3c8091c2,
    0x26bc91e0001d3c91c9a3, 0x3ca270001d3ca0b9c2, 0x3cb1d3cb0b9c4,
    0x3d8003d0003c8003600035000300002fbcc2f0002280013143,
    0x26943a6a42a693ca693c2693ba693aa6934a69302692fa6a2f2692aa6a272692626a24a6a233cd2226a2126a1d26a18a6a12a6a0c26a0ba69011ea,
    0x2d8422d841ad8412d840ad8402d83fad83f2d83ead83e2d83cad83aad8352d834ad8302d82fad72f2d82aad7272d8262d71dad71d2d7132d70bad7092d801184,
    0x2ea422ea41aea412ea40aea402ea3faea3f2ea3eaea3e2ea3caea3aaea352ea34aea302ea2fae92f2ea2aae9272ea262e91dae91d2e9132e90bae9092ea01184,
    0x3044230441b044130440b04403043fb043f3043eb043e3043cb043ab043530434b04303042fb032f3042ab0327304263031db031d303133030bb030930401184,
    0x3164231641b164131640b16403163fb163f3163eb163e3163cb163ab163531634b16303162fb152f3162ab1527316263151db151d315133150bb150931601184],
  [0x28d43a8e42a8d3ca8d3c28d3ba8d3aa8d34a8d3028d2fa8e2f28d2aa8e2728d2628e24a8e2328d2228e2128e1d28e18a8e12a8e0c28e0ba8e0b28d011e8,
    0x28f43a9042a8f3ca8f3c28f3ba8f3aa8f34a8f3028f2fa902f28f2aa902728f2629024a902328f22290212901d29018a9012a900c2900ba900b28f011e8,
    0x3ce270001d1c2, 573575663, 0x3d1353d0303cf2f8001d9ee, 0x1d3d20b9c4, 0x3d3270001d1c2,
    0x3d4270001d1c2, 0x3d5270001d1c2,
    0x27343a7242a733ca733c2733ba733aa7334a73302732fa722f2732aa72272732627224a722327322272212721d27218a7212a720c2720ba720b273011e8,
    0x27543a7442a753ca753c2753ba753aa7534a75302752fa742f2752aa74272752627424a742327522274212741d27418a7412a740c2740ba740b275011e8,
    0x270001d3d6091c2, 121326, 0x26bd71e0001d1a9, 0x3d8218001e20e, 0x3d9218001e20e, 0x3da270001d1c2,
    0x3db270001d1c2, 0x3dc270001d1c2, 0x3dd218001e20e, 0x3de270001d1c2, 0x3df270001d1c2, 0x1d3e00b9c4,
    0x1d3e10b9c4, 1016193550, 0x1e3e20920e, 1043456526, 0x3e4218001e20e, 0x1d3e50b9c4, 0x1d3e60b9c4,
    0x1d3e70b9c4, 0x1d3e80b9c4],
  [0x3e9270001d1c2, 0x3ea270001d1c2, 0x3eb270001d1c2, 0x3ec270001d1c2, 0x3ed270001d1c2,
    0x3ee270001d1c2, 0x3ef270001d1c2, 0x3f0270001d1c2, 0x26922000131fc,
    0x4380042bf1220000c0000bbf2011e8,
    0x29143a9242a913ca913c2913ba913aa9134a91302912fa922f2912aa92272912629224a922329122292212921d29218a9212a920c2920ba91011e8,
    78332, 994054698, 1060231662, 0x27000091f3, 0x3f4423f441868133f50120d, 0x3f6423f641bf701230,
    78340, 0x230002222a, 0x3f8423f841bf901230, 1067454989, 0x3b643bb542bb701233, 0x3fb423fb41bfc01230,
    0x3c8003a80034800300002f8002abfd01184, 0x3fe423fe41bff01230, 0x4004240041c0101230, 994054707,
    248370, 1075843635, 1076892211, 0x4044240441c050120d,
    0x14500144c0844407438223c8223a82234822300222f8aa2ac062086813007068060640901000],
  [1084500539, 0x40b4240b41c0c0120d, 0x40d4240d41c0e0120d, 995371579, 0x40f4240f41c100120d,
    1091846720, 0x41344412439f23c9f23a9f2349f2301f22f9f12ac1401240,
    0x3c0003b8002700024c15220001d00018800129fc,
    0x43800428003c0003bc162700024a142321522214210001d00018800128000c4160ba170b1ea,
    0x223c8223a82234822300222f8aa2a800264170122a, 0x4183cc183ac1834c18304182fc182ac182641918c1801233,
    1101009482, 0x230002241b0124a,
    0x14500144a5d3c25d3b8bf2f25d2725d24a5d233342125d1d25d12a5d0c25d0b800,
    0x27011248002341d22216210000bc1c0b249, 193037, 0x41f3cc1f3ac1f34c1f3041f2fc1f2ac1f2641e18c1f01233,
    78408, 0xab2f0002123b,
    0x4214242141c214142140c21404213fc213f4213ec213e4213c4213bc202f42024c2123c200b4210120d,
    0x25f3c25f3ba5f2725f248002325f1d25f12a5f0c25f0ba4e,
    0x4234242341c234142340c23404233fc233f4233ec233e4233c4233bc222f42224c2323c220b4230120d, 1101009485,
    0x145001448bf2f41d2242421068132170b000, 1112679000,
    0x2cc422cc41acc412cc40acc402cc3facc3f2cc3eacc3e4262f386273861d3860bb86092cc0120d,
    0x427438003c0003b80027000248001d00012c280124e, 0x2600024a4f, 638628444, 78425,
    0x4292700022334214291e4291d4290cc290b8000b25e, 0x1e0000bc1c0b25f],
  [0x14500144c2f3442e33c2d3342c3242b30c2a09000, 0x43031c30310002f000214310124d, 1126208097,
    1127223906, 0x4393443833c37334363243530c3409261, 0x43800428002643a220000c0000ba610b252, 139870,
    0x208000680006240, 1135653472, 1136702048, 0x208000680006247, 0x26523265220000b25e,
    0x268232682226c, 0x2342522266, 0x26d2326d2226c, 0x26f2326f2226c, 0x2743d220001e0000ca5f,
    0x43e4343e2743e24b34210000b267, 193107, 0x4443f43c4001268, 0x230000c0000ba5b,
    0x4413cc413ac4134c4231c4231441304412fc412ac4101262, 0x4442744325b34210000b267, 1146253943,
    0x4444643c470126b, 0x44c4544c44c4b0a44b09c4a08c490844907c4806800, 0x44d318003144e01262,
    0x4500a45009c4f06a7a, 0x25f233f1223342126c, 0x14500144c533c4523baa024c512380913000,
    0x4570a45709c5608c550845507c5406a7a, 0x4583cc583ac5834c58304582fc582ac582641918c5801273],
  [0x2f0002145918a51, 0x31c5a0127b, 1169166978, 0x2f25f2300021255, 1170215554, 1171264130,
    1172312706, 0x14500144c6125c602545f09000, 1176507010, 1177555586, 1178604162, 1179652738,
    1180701314, 1181749890, 0x4683cc683ac6834c6831c6831468304682fc682ac6801262,
    0x4693cc693ac6934c6931c6931469304692fc692ac6901262, 1184895618, 1185944194, 1186992770,
    0x46d4446e01282, 1190138498, 1191187074, 0x2647101273, 0x4733cc733ac7334c73304732fc722ac7401282,
    0x3bc7624c7523a7e, 1198527106, 78462, 1189089922, 1199575682, 0x145001448ab2f47901000,
    0x47a4347a3bc7a2f47a2747a24c7a2147a1ca72, 0x47b4347b3bc7b2f47b2747b24c7b2147b1ca72],
  [0x47c4347c3bc7c2f47c2747c24c7c2147c1ca72, 0x47e2547d09288, 0x2f47f272a0248002147f1d47f09267,
    0x480434803bc802f4802748024c80214801ca72, 0x48325c822548109288, 0x484274841d484092a3,
    0x485434853bc852f4852748524c85214851ca72, 0x44c4544c44c890a48808c870748606000,
    0x48c0a48b0748a062a8, 0x48d0a48d09c8d08c8d0848d07c8d06a7a, 1222644382, 1223692958,
    0x490210000b267, 1225790110, 0x4950a49408c9307492062a8, 1231164077, 146075, 78489, 1232081566,
    1233130142, 1204851336, 0x4993449933c99334993249930c9909261, 1235358381, 0x49d25c9c2549b09288,
    0x14500144b7a26c9e1e3781d49e1c800, 0x49f3449f33c9f3349f3249f30c9f09261,
    0x4a0344a033ca0334a0324a030ca009261, 0x4a1344a133ca1334a1324a130ca109261,
    0x4a2344a233ca2334a2324a230ca209261, 0x4a3344a333ca3334a3324a330ca309261,
    0x4a4344a433ca4334a4324a430ca409261, 0x4a5344a533ca5334a5324a530ca509261],
  [0x4a6344a633ca6334a6324a630ca609261, 0x4a7344a733ca7334a7324a730ca709261,
    0x4a8344a833ca8334a8324a830ca809261, 0x4a9344a933ca9334a9324a930ca909261,
    0x4aa0a4aa09caa08caa084aa07caa06a7a, 1253053086, 1254101662, 0x4ad2f3bd212ad, 1256198814,
    1257247390, 1258427053, 1259475629, 0x14500144cb32d4b22c800, 0x14500144cb5444b523cb41d4b412800,
    0x2f00021258, 1112679119, 0x2f416272132321322213214160ba6c, 0x270000ba170b2d1,
    0x14500144cb6274b61e4b61d4b60ccb60b800, 0x4b71d4b712ace, 0x14500144b91274b91d4b809000,
    0x4ba274ba1d0000b4ba092a3, 0x4bb1d3c5092d5, 0x38926b891e4bc1d0001cb890bab9,
    0x4be3c0003bcbe274be24cbd1d2b1, 0x4bf274bf1d4bf092d6, 0x4c01d3891c8000bad8, 0x38326b821d0001cab9,
    0x14500144cc224cc10b000, 0x14500144ac8234c40c4c30b800, 0x444c623cc51d4c512ace, 0x3c4c724ab1],
  [0x220091341c0b2cf, 0x2f4c820868134c80129e, 0x4c9270001e4c91d4ca0ccc90bad3,
    0x4cc434cb274cb248000b2dd, 0x4cd1d4cd12adf, 244401, 246449, 146098, 0x4ce274ce24ae4,
    0x4aa0a4aa08ccf074aa062a8, 0x23cd01d4d012cd10c2df, 0x274d224ae4, 0x4d33c4d324cd41d2e6,
    0x4d51e0000bae3, 0x4d6274d624ae4, 0x3c4d7274d724aed, 0x4d81d4d812aeb, 0x4d93c4d924aed,
    0x36a1e0001d36a1cab9, 1302455022, 0x4db274db1d4db0bcdb092d5, 0x4dc274dc24af0,
    0x4de1d4de12cdd0c2eb, 0x2c8234df22000132cf, 1273090777, 0x4e0274e01d4e00bce0092d5,
    0x4e1274e21d4e1092d5, 0x4e3274e31d4e30bce3092d5, 0x4e52729d224e41d000092d5, 1315074813,
    0x4e8274e71d2fd, 0x4e9274e91d4e90bce9092d5],
  [1319156446, 1320280814, 1321329390, 1322377966, 1323426542, 0x4ef27011248000b2dd,
    0x14500144cf11d4f00b800, 0x23cf31d4f212adf, 0x4f424a9d220000b2dd, 1330803462,
    0x4f6274f71d000092d5, 0x21f1d4f80bb07, 0x234f90bade, 0x2f00021275, 691059463, 1335962376,
    0x4fc1d4fb12b08, 78544, 0x2c7222c6210000b2f8, 0x4fe2700024cfd0bb06, 0x2f4ff17d000129e, 1343386379,
    0x5031d5020bb07, 0x5050c5040bb0d, 0x50643d070130e, 0x5091d5080bb07, 1352710919, 1353988878,
    0x50d1d50c12b08, 1356933905, 0x50f3c50f3bd0f24ab1, 0x5102711c0bb14],
  [0x5112738d1d30b, 0x5131d5120bb07, 119509, 0x3821d5140bb07, 0x515435152751524ae4,
    0x517275161d30b, 0x394273941d3940bb07, 1367390983, 0x51a1d51912b08, 0x273961d395092d5,
    0x51b26d1b1e51b1caf3, 0x51d2751c0bb14, 0x3c42751e1d30b, 0x5201d51f0932a, 1376828194,
    0x52332d22270001d2fd, 0x52532d2427330, 0x526275261d526092d5, 0x5281d5270bb07, 1306575607,
    0x5291d0e20932a, 0x52a26d2a1e52a1caf3, 0x52b25d2b2552b09288, 0x3981d52c0bb07, 1389411128,
    0x52e1d0da0932a, 0x5301d52f0bb07, 0x531275311d531092d5, 1309790971, 0x532275321d532092d5,
    1395702579, 0x5341d3c80932a],
  [0x5351d3cb0bb07, 1398848312, 1399896888, 1400945464, 0x53a1d5390932a, 0x53b2753b1d53b092d5,
    0x53d1d53c0bb07, 1407329042, 1408285496, 1409334072, 0x54127000222fd, 1411543883, 0x54327000222ff,
    0x2f5442700021277, 1414576952, 0x546275461d2fd, 0x546275471d30b, 0x548275481d2fd, 0x548275491d30b,
    1419932494, 1420897041, 1421945617, 1422965538, 0x36a1e0001d2dc, 1424014114, 1425062690,
    1426111266, 1427159821, 1428208440, 1429257016, 1430305592, 1431354168],
  [1432402744, 1433451320, 1434499896, 1435548472, 1436597048, 1437645624, 1438694200, 1439742776,
    1440791352, 1441839928, 1442888504, 1443937080, 1445098273, 1446146849, 0x2491b0b2dd,
    0x2f564275650129e, 0x5662756701370, 45816, 1451348743, 0x569248000b2dd, 160518, 45789,
    0x56a270001d2fd, 0x56c2756b22377, 1456622452, 0x56e1d56e0bb07, 0x56f1d56f0bb07, 0x5701d57012b08,
    224545652, 140050, 246502, 0x5722757122377],
  [244448, 78561, 246504, 0x2f57320d730129e, 638628719, 275177, 1463972727, 1344394007,
    0x5751d5750bb07, 1346421528, 0x5761d5760bb07, 1348473625, 0x5771d5770bb07, 1350685466, 1354879773,
    0x5781d57812b08, 0x4400023ad4, 0x5793c57924ae6, 0x26d7a1e57a1caf3, 0x57c1e57b1cb93,
    0x57d3c57d24ae6, 275183, 1366414118, 0x57e1d57e0bb07, 0x57f1d57f0bb07, 0x5801d58012b08,
    1368511273, 0x5811d58112b08, 0x5824358224aec, 275180, 1371697964, 1479701367],
  [1480749943, 0x5853480024b09, 0x5861d5860bb07, 0x5872758724b06, 0x5881d5880bb07, 0x5894358924aec,
    0x58a4458a438000130e, 0x268001d2b9, 0x58b1d58b0bb07, 1391579963, 1489138551, 1490187127,
    1491235703, 0x58f1d58f0bb07, 1015141184, 0x5901e5901cb93, 1402065733, 1405211463, 1494360946,
    0x5922e1df288000b36f, 0x2f5930129e, 1497412463, 1498420149, 1499468725, 1500517301, 0xb59800b6f,
    0x21a1c8000b36f, 140146, 0x599288000b36f, 0x59a2700024b06, 1504867262, 1505760181],
  [1506808757, 1507857333, 1508905909, 1509954485, 0xe8218000b36f, 0x5a1228000b36f, 1512207294,
    0x5a3300000b36f, 1514261435, 1515238255, 97045, 45896, 1516401598, 252844997, 1517407163,
    1137845196, 1518343093, 1519537012, 1520595902, 1521634164, 0x5ac0c8000b36f, 119586, 1523741630,
    1524790206, 160547, 1525683125, 119594, 1526887358, 117652, 123796, 1527925620, 1528875989],
  [1529920470, 119598, 1531081662, 1011913689, 1532130238, 1533178814, 1534217076, 1535163350,
    1536216021, 1014010841, 1537373118, 1538309078, 1539470270, 1540406230, 1541444569, 1542503382,
    1543664574, 1544713150, 1545761726, 1546810302, 1547858878, 1548907454, 1549956030, 1551004606,
    1552010171, 266476485, 1553101758, 1553994677, 1555178444, 1556247486, 267525061, 119639],
  [1557140405, 119642, 1558229871, 1559278447]]⟩

/-- The distinct rows of successors; the column is the rule, counted from the last token, and the entry the state. -/
def successorRows : Table Nat := ⟨[
  [0,
    0x1f756ad54b002489ad480024710046d1f4442e432fc42afc422fc41b3f4133240b89402fd3fd203f1013b1013910138b0e312d430901301012e1012d1012c9012810027a062520624a062410023900231002290022100209001e1001d9001d1001c9001c1001b9001b1001a9001a1001990019100188021807a12a02102020f1b80ea020e1b80da050d2020ca020c2020ba020aa040a24b09a4b0924b08d1f0824b07a4b0724b06a4b0624b05ad3052030320302a0102202018020151e00800,
    0x34880347003180030100000802, 0x74f1854e8004880047000433073f800313123080718541148791280001003,
    0xb4f0004e80a3700b1800014cfc10a800a004, 0x64f0004e8061800014804, 0x94f00918006, 0xc4f00c18006,
    0xe4f00e18006, 0x4f521182a412806, 0x1081807a1280a, 411140107, 291602443, 328302603, 354517003,
    355565579, 373391371, 374439947, 375488523, 376537099, 377585675, 385974283, 387022859, 388071435,
    389120011, 390168587, 391217163, 392265739, 393314315, 396460043, 397508619, 398557195],
  [399605771, 400654347, 401702923, 402751499, 403800075, 404848651, 405897227, 406945803,
    126953483, 414285865, 126953485, 126953486, 126953487, 126953488, 126953489, 126953490, 126953491,
    126953492, 126953493, 126953494, 126953495, 126953496, 126953497, 126953498, 126953499, 126953500,
    126953501, 126953502, 126953503, 126953504, 126953505, 126953506],
  [126953507, 126953508, 126953509, 126953510, 126953511, 126953512, 276922378, 1367441418,
    291602442, 328302602, 354517002, 355565578, 373391370, 374439946, 375488522, 376537098, 377585674,
    385974282, 387022858, 388071434, 389120010, 390168586, 391217162, 392265738, 393314314, 396460042,
    397508618, 398557194, 399605770, 400654346, 401702922, 402751498],
  [403800074, 404848650, 405897226, 406945802,
    0x56b104b00046b7f3f8003b000390003880030800300002e0002d0002c8002800027b102531024b102400023800230002280022000208001e0001d8001d0001c8001c0001b8001b0001a8001a0001980019000188001824b12ad80500a,
    0x27456b0f4b1bb4842f45ca54542f44ab83fbf63f34030acb252cb24acb242d605065, 1375989862, 1116991590,
    0x2745689946b093fb4530acb252cb24acb2429205065, 0xb946b0b3fb4c30ab605069, 0xbd46b0c3fb4d30ab705069,
    0x1c74853a2753a26c4d263522535224b522427c05065, 0x1ad4845d2745d268002606c,
    0x4671dc671946718ad305065, 0x5642756426c872606c, 0x5662756626c8a2606c, 0x4583ea9605065,
    0x1bf48363413373fc62174621629405065, 0x50f2750f2686d,
    0x1b94855d44363413353fc5a1645a15c16151d10e9d10dd5d0827205065, 0x5002750026ac50506d,
    0x50c3eac705065, 0x500275002686d, 0x559275592686d, 0x1ba48363413353fc5a1645a15c881527805065,
    0x24f18a6605065, 0x4543ea9505065, 0x1be4855d441d10e9d10dd5d082820507a, 762335333, 692080741,
    773869669, 0xd55011d200d51e800],
  [0x9b5011e2009b1e800, 775966821, 777015397, 779112549, 327286912, 695226469, 780161125,
    696275045, 697323621, 698372197, 781209701, 699420773, 701517925, 702566501, 703615077, 710955109,
    712003685, 713052261, 714100837, 715149413, 716197989, 717246565, 718295141, 719343717, 720392293,
    721440869, 722489445, 723538021, 724586597, 725635173, 726683749, 792744037],
  [793792613, 794841189, 795889765, 796938341, 797986917, 799035493, 800084069, 616583269,
    617631845, 730878053, 764432485, 767578213, 761286757, 642797669, 644894821, 645943397, 646991973,
    648040549, 649089125, 650137701, 620777573, 651186277, 652234853, 653283429, 771772517, 772821093,
    0x2110a25407a5305065, 774918245, 131200, 740315237, 670060645, 654332005],
  [742412389, 782258277, 0x18ac80507c, 747655269, 748703845, 783306853, 0x18a810507c, 0x18a830507c,
    0x18a840507c, 0x18a850507c, 0x18a860507c, 0x18a870507c, 0x18a880507c, 0x18a500507c, 0x18a890507c,
    0x18a8a0507c, 0x18a8b0507c, 0x18a110a25407a530507c, 0x18a8c0507c, 0x18a8d0507c, 784355429,
    0x18a4c0507c, 0x18a4d0507c, 785404005, 786452581, 787501157, 788549733, 789598309, 790646885,
    791695461,
    0x3e04800046800443223fb4430cea2180012a020ebdf0dc3b0a00009800090000880008000078000700006800060000580005069,
    1136793823],
  [0x1854ed4114800, 0x569ee4851f4437f3f80030b102531024b102400021a020da1b0a51f08258078df,
    0x56a4a4855d4437f3f80030b102531024b102400021a020da1b0a55d08258078df,
    0x1f75699956199479994742e432fc42afc422fc41b06412cc40b173f9993b199391993899938406361993599935316312bf30999301992e1f7251f7249f72419918800,
    0x19b5619b4799b4719b3b19b3919b3899b3819b3599b3519b3019b2e19b188e4,
    0x19c5619c4799c4719c3b19c3919c3899c3819c3599c3519c3019c2e19c188e4, 0x2da10a090f800, 1128573159,
    0x1a15900056000479a14731a3f9a13c9a13b1a1391a1388003800036000358003530e312e6309a1301a12e000188e4,
    0x1a3591a3471a33c9a33b1a3391a3389a3301a32e0e9, 627140839, 0x4314843137800,
    0x591ab5880047000433253f9ab3c9ab3b1ab3a1ab390003880031324309ab301ab2e0e9,
    0x1ac589ac3c9ac3b1ac3a1ac391ac301ac2e0ed, 546371584, 563148800, 592508928,
    0x1b14d3d94b3d9253d924bd924000, 0x1b04d1df120f2, 67819, 67816, 0x256169c810800,
    0x1d34bbda4b3da253da24bda24214121d30b0f3, 561062135, 627140608, 571547895, 574693623, 478218240,
    480315392, 0x27456b194b42f45ca54542f44afc42afc422fc41b06412cc40b183fb4030acb252cb24acb24000,
    0x1d34bbc24b3c2253c224bc2241d30b000, 0x4b444458004544444b2e3fa742527424a74240fe],
  [628391936, 630489088, 0x4c545cc544900, 0x4580044b363fb3d30b831fd451f100, 549607424, 555960320,
    559106048, 567494656, 568543232, 569591808, 572737536, 582174720, 583223296, 584271872, 585320448,
    594757632, 595806208, 0x1f8569f8251f8249f824000, 1248901120, 575768576,
    0x31e4b4ba481de429de421de419c2411d0409e6401b73f9e13f31e2531e24b1e2425216000,
    0x2494d3b54b3b5253b524bb524000, 0x1e23f25516115, 0x3c54c4fe17800, 1427175424,
    0x27656a762527624a7624000, 704796672, 1061470488, 751982592,
    0x4ba482fc42afc422fc41b6e412cc40b4a3fc621746216000,
    0x56b084b0004580044b89403433fc393f00030b082530824b082443911100, 1153767424],
  [0x27456d3e30be72fd3d2f2742527424a7424000, 1157939200, 1180016640, 1183129600, 1184178176,
    1193615360, 1194663936, 1195712512, 0x510175101611e, 1200955392, 1202003968, 1207246848,
    0x4853f4851111f, 1221926912, 1222975488, 1224024064, 1225072640, 1226121216, 1227169792,
    1228218368, 1229266944, 1230315520, 1231364096, 1232412672, 1233461248, 1234509824, 1235558400,
    1236606976, 1237655552, 1238702080, 1239750656, 0x4365b2484d35b484ad3e2fe12116],
  [765528064, 0x2bb4b2bb252bb24abb24000, 0x4e23f4e21111f,
    0x48432433064131c3fc133631631000170001611e, 0x46d2fd4e2f121, 1429401925, 766576640,
    0x3133f8003630e31144, 0x2fc42afc422fc41b06412cc40b393f942,
    0x3104b4073f4cd33b102531024b10240001111f, 1399011658, 1296251210, 835975496,
    0x5b35c483fc43bfb3e4333dd2b3d140, 0x4c13f0003394a, 1079243087, 1151594831, 1091825999, 1309929807,
    1178857807, 1107554639, 0x35b480004394e, 0x40a3e55f3d156, 192837, 1118036311, 1120133463,
    0x3114b36642b664235a4134f40b112531124b112432910800, 0x3144b3383fb142531424b1424149, 896792905,
    0x36842b684235d4135140b2d10942, 0x433213f80031148, 1393807694],
  [866384201, 0x31b4b4d842cd842451413e940b1b2531b24b1b2415b, 1409536334, 930347337, 1418973518,
    0x4f142cf142463413f04095e, 1420022094, 1425264974, 0x1de429de421de419db411d0409b63f942,
    0x3204b37142b71423644135440b202532024b202415b, 0x37242b7242365413564095e, 1393807702,
    0x5b5393e140, 0x4173e5623d156, 845412703, 0x369485493d156, 0x36a4854f3d156, 1119084910,
    1121182062, 0x32c4b4b142cb14243a413de40b2c2532c24b2c24000, 0x1ae483a110a0f0d2030320302a0e02000,
    1275322733, 0x4c942cc942448413e440942, 0x32f4b4cc42ccc42449413e640b2f2532f24b2f24000, 373056,
    0x4e442ce442459413eb40942, 965806453, 525631861, 1413734765, 0x466480003e16d, 0x385508004817e,
    1348764030],
  [0x4bc484034397e, 295294, 1090795905, 0x4e54422618941, 586254724, 0x3363fb841f95f, 850655583,
    0x3474b35b483fb3e4c23db472534724b4724000, 860092767, 842266975, 0x3494b4df3db492534924b4924188,
    0x35b483fb3e4df3d942, 1335089548, 870578527, 846461279, 847509855,
    0x2484d1c14bbb84b3b8253b824bb8244b0121e90f9c10b0e7, 0x1c04bcaf122db109e80f9c00b191,
    0x1c44bccb121ed0f9c40b191, 0x1c34bcca121ec0f9c30b192, 0x36d4bb6d0b191, 0x36c4bb6c0b192,
    0x3704bb700b193, 0x36f4bb6f0b194, 1146466690, 1337213249, 63723, 67986, 1041310082, 927220125,
    67988, 0x36053bbf2c3bf2bbbf2b3bf2abbf29b6029000],
  [0x361544eb484eb37b952a000, 0x36253b62291a0, 0x3785450448503379a1, 67990, 67992, 0x1ae483a110800,
    525631910, 0x1d34ba14120000f9d30b19c, 561062312, 571548072, 574693800, 1159799170,
    0x35b483fb3e4de3d800, 0x1af483a410800, 0x378543952a000, 0x5563ac7e12182, 0x5583ac8412182,
    526680494, 0x37e49b7e04b7e0437e03800, 0x4aa484aa37800, 0x38149b8104b810438103800,
    0x10634cb2343fe333b932ba031000, 0x12a34cd93440d333c032ba331000, 0x35b4854c3e000, 1428414904,
    946145280, 0x1e7481e737800, 0x4a9484a937800, 0x43d4843d37800, 0x4b5484b537800, 0x4be484be37800,
    0x44ebbe4e3aa4dcd214bbe143aa13800],
  [0x4554845537800, 0x45f4845f37800, 0x4604846037800, 0x4ec484ec37800, 0x4ed484ed37800,
    0x54d4850126000, 0x4254842537800, 0x4264842637800, 0x4274842737800, 1299480576, 0x4804848037800,
    0x4824848237800, 0x2754827537800, 0x27a4827a37800, 0x1153c4003bcb8343ba31000, 1274314752,
    0x11834cce34408333bd32800, 0x12d3c40f3bcdc343c131000, 0x14434cf234419333c432800, 1347715072,
    0x3b34b43031bb3253b324bb324000, 1281563093, 0x44ebad4dbad138e1, 0x46134bec0f800, 0x46e34bf20f800,
    0x3b1493b104000, 0x3b7493b704000, 0x3bb4b3bb253bb24bbb24000, 0x3d64b3d6253d624bd624000,
    0x3bc4b3bc253bc24bbc24000, 0x11934ccf3440933000, 0x1273c40c3bcd534000],
  [0x13034ce73441533000, 0x3c34e54214bc314000, 0x14534cf33441a33000, 0x14a3c41c3bcf634000,
    0x15834d073442333000, 0x3f34c50e17800, 0x3d74b3d7253d724bd724000, 0x3d84b3d8253d824bd824000,
    0x965010f200961e800, 1283528704, 514914535, 513866055, 1311840256, 520157415, 519108935,
    522254567, 521206087, 0x3ed55d482f000, 512817383, 511768903, 524351719, 523303239, 1187203072,
    0x42255d4e2f000, 1055178752, 517011687, 515963207, 1058373632, 1197688832, 1060421632, 1055179238,
    0x4a8213db18800],
  [1129619456, 1256398848, 0x4b6331132e800, 0x3ff444b731000, 1267795968, 1272209408, 1282613248,
    0x11a34cd034000, 0x12434cd333000, 0x1293c4d634000, 0x4da3312b2e800, 0x40e444db31000, 1305763840,
    1092974592, 0x4e64622736800, 1095073792, 0x13134ce834000, 0x13334ce934000, 0x13d34cee33000,
    0x1423c4ef34000, 0x14634cf434000, 0x14934cf533000, 0x14c3c4f734000, 1334075392, 1104510976,
    1105557504, 0x4fa4623036800, 0x14e34cfd34000, 1340176384, 0x15934d0834000, 0x15b34d0934000,
    0x15e34d0a33000],
  [0x1613c50b34000, 1109743616, 0x16a34d1134000, 1203062784, 1204111360, 1205161984, 1220845568,
    410093568, 1131784192, 1132818432, 285378560, 413239296, 1140168704, 1141155840, 1142202368,
    1143320576, 1144367104, 1147498496, 1148504064, 513865728, 1152716800, 301107200, 1405278208,
    1161140224, 1164290048, 1165281280, 519108608, 521205760, 1169494016, 1170544640, 1172645888,
    1416812544],
  [1417867264, 511768576, 349341696, 523302912, 1185230848, 1186277376, 1190459392, 515962880,
    1191550976, 1192566784, 1196765184, 1198848000, 1433466880, 1209354240, 1211453440, 1436788736,
    1438885888, 1214564352, 1217734656, 1219831808, 1247852544, 16824320, 17872896, 116469760,
    282167296, 158435328, 289642496, 557049856, 560195584, 296962048, 1399896064, 297895936],
  [305326080, 1085554688, 310624256, 314808320, 927219712, 570681344, 573827072, 321079296,
    323176448, 324225024, 333662208, 336838656, 338935808, 579926016, 343099392, 344123392,
    1102331904, 347324416, 589522944, 351488000, 352536576, 353585152, 358828032, 359907328,
    363022336, 365119488, 366168064, 368265216, 369344512, 371441664, 596862976, 372459520],
  [263292928, 599848960, 380848128, 381896704, 382945280, 383993856, 385073152, 1431369728,
    395528192, 1437661184, 48281600, 49330176, 79738880, 80787456]]⟩

end Sketchbook.Syntax.ActionTable
