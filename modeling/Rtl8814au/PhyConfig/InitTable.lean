import Rtl8814au.PhyConfig.GainTables

/-!
# PhyConfig.InitTable

`kFullInitSequence`, the writes of a cold start that `Initialize` replays. A word has the address of a
write above its value.
-/

namespace Rtl8814au
namespace PhyConfig

def fullInit0 : List Nat :=
  [0x0800_9020D010, 0x0804_08011280, 0x0808_0E0282FF, 0x080C_1000002F, 0x0810_33303265,
    0x0814_020C3D10, 0x0818_04A10385, 0x0820_00000000, 0x0824_00033E40, 0x0828_00000000,
    0x082C_73985170, 0x0830_79A0EA08, 0x0834_042E708A, 0x0838_86667640, 0x083C_9798B9B9,
    0x0840_17578F60, 0x0844_4BBDFCDE, 0x0848_5CD07F8B, 0x084C_6CFBF7B5, 0x0850_28834706,
    0x0854_0001520C, 0x0858_4060C000, 0x085C_74210368, 0x0860_6929C321, 0x0864_79727432,
    0x0868_8CA7A314, 0x086C_438C2878, 0x0870_44444444, 0x0874_21612C2E, 0x0878_00003152,
    0x087C_000FC000, 0x08A0_00000013, 0x08A4_7F7F7F7F, 0x08A8_A202033E, 0x08AC_F40F550A,
    0x08B0_00000600, 0x08B4_000FC080, 0x08B8_EC0057FF, 0x08BC_8CA520C3, 0x08C0_3FF00020,
    0x08C4_44C00000, 0x08C8_80025167, 0x08CC_08250492, 0x08D0_0000B800, 0x08D4_940008A0,
    0x08D8_290B5612, 0x08DC_00000000, 0x08E0_32316407, 0x08E4_4A092925, 0x08E8_FFFFC42C,
    0x08EC_99999999, 0x08F0_00009999, 0x08F4_00F80FA1, 0x08F8_400082C0, 0x08FC_00000000,
    0x0900_00400700, 0x090C_09004000, 0x0910_0000FC00, 0x0914_D6400404, 0x0918_1C1028C0,
    0x091C_64B11A1C, 0x0920_E0767233, 0x0924_055AA500, 0x0928_4AB0E4E4, 0x092C_FFFE0000,
    0x0930_FFFFFFFE, 0x0934_001FFFFF, 0x0938_00008400, 0x093C_932C0642, 0x0940_093E9360,
    0x0944_08000000, 0x0948_04000000, 0x0950_02010080, 0x0954_86510080, 0x0960_00000000,
    0x0964_00000000, 0x0968_00000000, 0x096C_00000000, 0x0970_801FFFFF, 0x0978_00000000,
    0x097C_00000000, 0x0980_00000000, 0x0984_00000000, 0x0988_00000000, 0x098C_03440000,
    0x0990_27100000, 0x0994_FFFF0100, 0x0998_FFFFFF5C, 0x099C_FFFFFFFF, 0x09A0_000000FF,
    0x09A4_00080080, 0x09A8_0C2F0000, 0x09AC_00560000, 0x09B0_81081008, 0x09B4_00000000,
    0x09B8_01081008, 0x09BC_01081008, 0x09D0_00000000, 0x09D4_00000000, 0x09D8_00000000,
    0x09DC_00000000, 0x09E4_00000002, 0x09E8_000022D5, 0x09FC_EFFFF7FF, 0x0B00_E3100000,
    0x0B04_0000B000, 0x0B0C_31EAA006, 0x0B5C_41CFFFFF, 0x0C00_00000007, 0x0C04_00042020,
    0x0C08_80410231, 0x0C0C_00000000, 0x0C10_00000100, 0x0C14_01000000, 0x0C1C_40000053,
    0x0C50_00000020, 0x0C54_00000000, 0x0C58_3C020C14, 0x0C5C_0D000058, 0x0C60_1B800000,
    0x0C60_0B800001, 0x0C60_05800002, 0x0C60_07800003, 0x0C60_1A800004, 0x0C60_0B800005,
    0x0C60_05800006, 0x0C60_0E800007, 0x0C60_1A800008, 0x0C60_0B800009, 0x0C60_1580000A,
    0x0C60_0880000B, 0x0C60_1A80000C, 0x0C60_0B80000D, 0x0C60_0580000E, 0x0C60_0E80000F,
    0x0C60_1A800010, 0x0C60_0B800011, 0x0C60_15800012, 0x0C60_08800013, 0x0C60_1A800014,
    0x0C60_0B800015, 0x0C60_05800016, 0x0C60_07800017, 0x0C60_1A800018, 0x0C60_0B800019,
    0x0C60_1580001A, 0x0C60_0880001B, 0x0C60_1B80001C, 0x0C60_0B80001D, 0x0C60_0580001E,
    0x0C60_0780001F, 0x0C60_1B800020, 0x0C60_0B800021, 0x0C60_05800022, 0x0C60_07800023,
    0x0C60_1B800024, 0x0C60_0B800025, 0x0C60_05800026, 0x0C60_07800027, 0x0C60_1B800028,
    0x0C60_0B800029, 0x0C60_0580002A, 0x0C60_0780002B, 0x0C60_1B800030, 0x0C60_0B800031,
    0x0C60_05800032, 0x0C60_00800033, 0x0C60_1B800034, 0x0C60_0B800035, 0x0C60_05800036,
    0x0C60_00800037, 0x0C60_1B800038, 0x0C60_0B800039, 0x0C60_0580003A, 0x0C60_0E80803B,
    0x0C94_01000401, 0x0C98_00188000, 0x0CA0_00002929, 0x0CA4_08040201, 0x0CA8_80402010,
    0x0CAC_77777000, 0x0CB0_54775477, 0x0CB4_54775477, 0x0CB8_00500000, 0x0CBC_77700000,
    0x0CC0_00000010, 0x0CC8_00000010, 0x0E00_00000007, 0x0E04_00042020, 0x0E08_80410231,
    0x0E0C_00000000, 0x0E10_00000100, 0x0E14_01000000, 0x0E1C_40000053, 0x0E50_00000020,
    0x0E54_00000000, 0x0E58_3C020C14, 0x0E5C_0D000058, 0x0E60_1B800000, 0x0E60_0B800001,
    0x0E60_05800002, 0x0E60_07800003, 0x0E60_1A800004, 0x0E60_0B800005, 0x0E60_05800006,
    0x0E60_0E800007, 0x0E60_1A800008, 0x0E60_0B800009, 0x0E60_1580000A, 0x0E60_0880000B,
    0x0E60_1A80000C, 0x0E60_0B80000D, 0x0E60_0580000E, 0x0E60_0E80000F, 0x0E60_1A800010,
    0x0E60_0B800011, 0x0E60_15800012, 0x0E60_08800013, 0x0E60_1A800014, 0x0E60_0B800015,
    0x0E60_05800016, 0x0E60_07800017, 0x0E60_1A800018, 0x0E60_0B800019, 0x0E60_1580001A,
    0x0E60_0880001B, 0x0E60_1B80001C, 0x0E60_0B80001D, 0x0E60_0580001E, 0x0E60_0780001F,
    0x0E60_1B800020, 0x0E60_0B800021, 0x0E60_05800022, 0x0E60_07800023, 0x0E60_1B800024,
    0x0E60_0B800025, 0x0E60_05800026, 0x0E60_07800027, 0x0E60_1B800028, 0x0E60_0B800029,
    0x0E60_0580002A, 0x0E60_0780002B, 0x0E60_1B800030, 0x0E60_0B800031, 0x0E60_05800032,
    0x0E60_00800033, 0x0E60_1B800034, 0x0E60_0B800035, 0x0E60_05800036, 0x0E60_00800037,
    0x0E60_1B800038, 0x0E60_0B800039, 0x0E60_0580003A, 0x0E60_0E80803B, 0x0E94_01000401,
    0x0E98_00188000]

def fullInit1 : List Nat :=
  [0x0EA0_00002929, 0x0EA4_08040201, 0x0EA8_80402010, 0x0EAC_77777000, 0x0EB0_54775477,
    0x0EB4_54775477, 0x0EB8_00500000, 0x0EBC_77700000, 0x1800_00000007, 0x1804_00042020,
    0x1808_80410231, 0x180C_00000000, 0x1810_00000100, 0x1814_01000000, 0x181C_40000053,
    0x1850_00000020, 0x1854_00000000, 0x1858_3C020C14, 0x185C_0D000058, 0x1860_1B800000,
    0x1860_0B800001, 0x1860_05800002, 0x1860_07800003, 0x1860_1A800004, 0x1860_0B800005,
    0x1860_05800006, 0x1860_0E800007, 0x1860_1A800008, 0x1860_0B800009, 0x1860_1580000A,
    0x1860_0880000B, 0x1860_1A80000C, 0x1860_0B80000D, 0x1860_0580000E, 0x1860_0E80000F,
    0x1860_1A800010, 0x1860_0B800011, 0x1860_15800012, 0x1860_08800013, 0x1860_1A800014,
    0x1860_0B800015, 0x1860_05800016, 0x1860_07800017, 0x1860_1A800018, 0x1860_0B800019,
    0x1860_1580001A, 0x1860_0880001B, 0x1860_1B80001C, 0x1860_0B80001D, 0x1860_0580001E,
    0x1860_0780001F, 0x1860_1B800020, 0x1860_0B800021, 0x1860_05800022, 0x1860_07800023,
    0x1860_1B800024, 0x1860_0B800025, 0x1860_05800026, 0x1860_07800027, 0x1860_1B800028,
    0x1860_0B800029, 0x1860_0580002A, 0x1860_0780002B, 0x1860_1B800030, 0x1860_0B800031,
    0x1860_05800032, 0x1860_00800033, 0x1860_1B800034, 0x1860_0B800035, 0x1860_05800036,
    0x1860_00800037, 0x1860_1B800038, 0x1860_0B800039, 0x1860_0580003A, 0x1860_0E80803B,
    0x1894_01000401, 0x1898_00188000, 0x18A0_00002929, 0x18A4_08040201, 0x18A8_80402010,
    0x18AC_77777000, 0x18B0_54775477, 0x18B4_54775477, 0x18B8_00500000, 0x18BC_77700000,
    0x1A00_00000007, 0x1A04_00042020, 0x1A08_80410231, 0x1A0C_00000000, 0x1A10_00000100,
    0x1A14_01000000, 0x1A1C_40000053, 0x1A50_00000020, 0x1A54_00000000, 0x1A58_3C020C14,
    0x1A5C_0D000058, 0x1A60_1B800000, 0x1A60_0B800001, 0x1A60_05800002, 0x1A60_07800003,
    0x1A60_1A800004, 0x1A60_0B800005, 0x1A60_05800006, 0x1A60_0E800007, 0x1A60_1A800008,
    0x1A60_0B800009, 0x1A60_1580000A, 0x1A60_0880000B, 0x1A60_1A80000C, 0x1A60_0B80000D,
    0x1A60_0580000E, 0x1A60_0E80000F, 0x1A60_1A800010, 0x1A60_0B800011, 0x1A60_15800012,
    0x1A60_08800013, 0x1A60_1A800014, 0x1A60_0B800015, 0x1A60_05800016, 0x1A60_07800017,
    0x1A60_1A800018, 0x1A60_0B800019, 0x1A60_1580001A, 0x1A60_0880001B, 0x1A60_1B80001C,
    0x1A60_0B80001D, 0x1A60_0580001E, 0x1A60_0780001F, 0x1A60_1B800020, 0x1A60_0B800021,
    0x1A60_05800022, 0x1A60_07800023, 0x1A60_1B800024, 0x1A60_0B800025, 0x1A60_05800026,
    0x1A60_07800027, 0x1A60_1B800028, 0x1A60_0B800029, 0x1A60_0580002A, 0x1A60_0780002B,
    0x1A60_1B800030, 0x1A60_0B800031, 0x1A60_05800032, 0x1A60_00800033, 0x1A60_1B800034,
    0x1A60_0B800035, 0x1A60_05800036, 0x1A60_00800037, 0x1A60_1B800038, 0x1A60_0B800039,
    0x1A60_0580003A, 0x1A60_0E80803B, 0x1A94_01000401, 0x1A98_00188000, 0x1AA0_00002929,
    0x1AA4_08040201, 0x1AA8_80402010, 0x1AAC_77777000, 0x1AB0_54775477, 0x1AB4_54775477,
    0x1AB8_00500000, 0x1ABC_77700000, 0x1904_00030000, 0x1914_00030000, 0x1984_03000000,
    0x1988_00000087, 0x198C_00000007, 0x1990_FFAA5500, 0x1994_00000077, 0x1998_12801000,
    0x1998_12801000, 0x1998_12801001, 0x1998_12801002, 0x1998_12801003, 0x1998_12801004,
    0x1998_12801005, 0x1998_12801006, 0x1998_12801007, 0x1998_12801008, 0x1998_12801009,
    0x1998_1280100A, 0x1998_1280100B, 0x1998_1280100C, 0x1998_1280100D, 0x1998_1280100E,
    0x1998_1280100F, 0x1998_12801010, 0x1998_12801011, 0x1998_12801012, 0x1998_12801013,
    0x1998_12801014, 0x1998_12801015, 0x1998_12801016, 0x1998_12801017, 0x1998_12801018,
    0x1998_12801019, 0x1998_1280101A, 0x1998_1280101B, 0x1998_1280101C, 0x1998_1280101D,
    0x1998_1280101E, 0x1998_1280101F, 0x1998_12801020, 0x1998_12801021, 0x1998_12801022,
    0x1998_12801023, 0x1998_1280102C, 0x1998_1280102D, 0x1998_1280102E, 0x1998_1280102F,
    0x1998_12801030, 0x1998_12801031, 0x1998_12801032, 0x1998_12801033, 0x1998_12801034,
    0x1998_12801035, 0x1998_12801036, 0x1998_12801037, 0x1998_12801038, 0x1998_12801039,
    0x1998_1280103A, 0x1998_1280103B, 0x1998_1280103C, 0x1998_1280103D, 0x1998_1280103E,
    0x1998_1280103F, 0x1998_12801040, 0x1998_12801041, 0x1998_12801042, 0x1998_12801043,
    0x1998_12801044, 0x1998_12801045, 0x1998_12801046, 0x1998_12801047, 0x1998_12801048,
    0x1998_12801049, 0x1998_12801100, 0x1998_12801101, 0x1998_12801102, 0x1998_12801103,
    0x1998_12801104, 0x1998_12801105, 0x1998_12801106, 0x1998_12801107, 0x1998_12801108,
    0x1998_12801109, 0x1998_1280110A, 0x1998_1280110B, 0x1998_1280110C, 0x1998_1280110D,
    0x1998_1280110E, 0x1998_1280110F, 0x1998_12801110, 0x1998_12801111, 0x1998_12801112,
    0x1998_12801113]

def fullInit2 : List Nat :=
  [0x1998_12801114, 0x1998_12801115, 0x1998_12801116, 0x1998_12801117, 0x1998_12801118,
    0x1998_12801119, 0x1998_1280111A, 0x1998_1280111B, 0x1998_1280111C, 0x1998_1280111D,
    0x1998_1280111E, 0x1998_1280111F, 0x1998_12801120, 0x1998_12801121, 0x1998_12801122,
    0x1998_12801123, 0x1998_1280112C, 0x1998_1280112D, 0x1998_1280112E, 0x1998_1280112F,
    0x1998_12801130, 0x1998_12801131, 0x1998_12801132, 0x1998_12801133, 0x1998_12801134,
    0x1998_12801135, 0x1998_12801136, 0x1998_12801137, 0x1998_12801138, 0x1998_12801139,
    0x1998_1280113A, 0x1998_1280113B, 0x1998_1280113C, 0x1998_1280113D, 0x1998_1280113E,
    0x1998_1280113F, 0x1998_12801140, 0x1998_12801141, 0x1998_12801142, 0x1998_12801143,
    0x1998_12801144, 0x1998_12801145, 0x1998_12801146, 0x1998_12801147, 0x1998_12801148,
    0x1998_12801149, 0x1998_12801200, 0x1998_12801201, 0x1998_12801202, 0x1998_12801203,
    0x1998_12801204, 0x1998_12801205, 0x1998_12801206, 0x1998_12801207, 0x1998_12801208,
    0x1998_12801209, 0x1998_1280120A, 0x1998_1280120B, 0x1998_1280120C, 0x1998_1280120D,
    0x1998_1280120E, 0x1998_1280120F, 0x1998_12801210, 0x1998_12801211, 0x1998_12801212,
    0x1998_12801213, 0x1998_12801214, 0x1998_12801215, 0x1998_12801216, 0x1998_12801217,
    0x1998_12801218, 0x1998_12801219, 0x1998_1280121A, 0x1998_1280121B, 0x1998_1280121C,
    0x1998_1280121D, 0x1998_1280121E, 0x1998_1280121F, 0x1998_12801220, 0x1998_12801221,
    0x1998_12801222, 0x1998_12801223, 0x1998_1280122C, 0x1998_1280122D, 0x1998_1280122E,
    0x1998_1280122F, 0x1998_12801230, 0x1998_12801231, 0x1998_12801232, 0x1998_12801233,
    0x1998_12801234, 0x1998_12801235, 0x1998_12801236, 0x1998_12801237, 0x1998_12801238,
    0x1998_12801239, 0x1998_1280123A, 0x1998_1280123B, 0x1998_1280123C, 0x1998_1280123D,
    0x1998_1280123E, 0x1998_1280123F, 0x1998_12801240, 0x1998_12801241, 0x1998_12801242,
    0x1998_12801243, 0x1998_12801244, 0x1998_12801245, 0x1998_12801246, 0x1998_12801247,
    0x1998_12801248, 0x1998_12801249, 0x1998_12801300, 0x1998_12801301, 0x1998_12801302,
    0x1998_12801303, 0x1998_12801304, 0x1998_12801305, 0x1998_12801306, 0x1998_12801307,
    0x1998_12801308, 0x1998_12801309, 0x1998_1280130A, 0x1998_1280130B, 0x1998_1280130C,
    0x1998_1280130D, 0x1998_1280130E, 0x1998_1280130F, 0x1998_12801310, 0x1998_12801311,
    0x1998_12801312, 0x1998_12801313, 0x1998_12801314, 0x1998_12801315, 0x1998_12801316,
    0x1998_12801317, 0x1998_12801318, 0x1998_12801319, 0x1998_1280131A, 0x1998_1280131B,
    0x1998_1280131C, 0x1998_1280131D, 0x1998_1280131E, 0x1998_1280131F, 0x1998_12801320,
    0x1998_12801321, 0x1998_12801322, 0x1998_12801323, 0x1998_1280132C, 0x1998_1280132D,
    0x1998_1280132E, 0x1998_1280132F, 0x1998_12801330, 0x1998_12801331, 0x1998_12801332,
    0x1998_12801333, 0x1998_12801334, 0x1998_12801335, 0x1998_12801336, 0x1998_12801337,
    0x1998_12801338, 0x1998_12801339, 0x1998_1280133A, 0x1998_1280133B, 0x1998_1280133C,
    0x1998_1280133D, 0x1998_1280133E, 0x1998_1280133F, 0x1998_12801340, 0x1998_12801341,
    0x1998_12801342, 0x1998_12801343, 0x1998_12801344, 0x1998_12801345, 0x1998_12801346,
    0x1998_12801347, 0x1998_12801348, 0x1998_12801349, 0x19D4_88888888, 0x19D8_00000888,
    0x0B00_E3100100, 0x0B00_E7100100, 0x0C60_15808002, 0x0C60_01808003, 0x0E60_15808002,
    0x0E60_01808003, 0x1860_15808002, 0x1860_01808003, 0x1A60_15808002, 0x1A60_01808003,
    0x0B00_E3100100, 0x0C5C_0D080058, 0x0E5C_0D080058, 0x185C_0D080058, 0x1A5C_0D080058,
    0x0C5C_0D000058, 0x0E5C_0D000058, 0x185C_0D000058, 0x1A5C_0D000058, 0x0C60_05808002,
    0x0C60_0E808003, 0x0E60_05808002, 0x0E60_0E808003, 0x1860_05808002, 0x1860_0E808003,
    0x1A60_05808002, 0x1A60_0E808003, 0x0B00_E7100100, 0x0B00_E3100100, 0x0B00_E3100000,
    0x1C38_00000002, 0x0A00_00D047C8, 0x0A04_46FF800C, 0x0A08_8C838300, 0x0A0C_2E7E000F,
    0x0A10_9500BB78, 0x0A14_11144028, 0x0A18_00881117, 0x0A1C_89140F00, 0x0A20_1A1B0030,
    0x0A24_090E1317, 0x0A28_00000204, 0x0A2C_00900000, 0x0A70_101FFF00, 0x0A74_00000128,
    0x0A78_00000900, 0x0A7C_225B0606, 0x0A80_218075B2, 0x0A84_9C1F8C00, 0x1B04_E24628D2,
    0x1B10_88010D46, 0x1B14_00000000, 0x1B18_00292903, 0x1B00_F8000000, 0x1B00_F800D000,
    0x1B00_F801F000, 0x1B1C_A2123DB2, 0x1B20_07040001, 0x1B24_07060807, 0x1B28_C0060324,
    0x1B2C_20000003, 0x1B30_20000000, 0x1B38_20000000, 0x1B3C_20000000, 0x1BD4_00000001,
    0x1B94_80000000, 0x1B34_00000000, 0x1B34_00000002, 0x1B34_00000000, 0x1B00_F8000002,
    0x1B00_F800D002, 0x1B00_F801F002, 0x1B1C_A2123DB2, 0x1B20_07040001, 0x1B24_07060807,
    0x1B28_C0060324]

def fullInit3 : List Nat :=
  [0x1B2C_20000003, 0x1B30_20000000, 0x1B38_20000000, 0x1B3C_20000000, 0x1BD4_00000001,
    0x1B94_80000000, 0x1B34_00000000, 0x1B34_00000002, 0x1B34_00000000, 0x1B00_F8000004,
    0x1B00_F800D004, 0x1B00_F801F004, 0x1B1C_A2123DB2, 0x1B20_07040001, 0x1B24_07060807,
    0x1B28_C0060324, 0x1B2C_20000003, 0x1B30_20000000, 0x1B38_20000000, 0x1B3C_20000000,
    0x1BD4_00000001, 0x1B94_80000000, 0x1B34_00000000, 0x1B34_00000002, 0x1B34_00000000,
    0x1B00_F8000006, 0x1B00_F800D006, 0x1B00_F801F006, 0x1B1C_A2123DB2, 0x1B20_07040001,
    0x1B24_07060807, 0x1B28_C0060324, 0x1B2C_20000003, 0x1B30_20000000, 0x1B38_20000000,
    0x1B3C_20000000, 0x1BD4_00000001, 0x1B94_80000000, 0x1B34_00000000, 0x1B34_00000002,
    0x1B34_00000000, 0x1B00_F8000000, 0x1B80_00000007, 0x1B80_09060005, 0x1B80_09060007,
    0x1B80_0FFE0015, 0x1B80_0FFE0017, 0x1B80_00240025, 0x1B80_00240027, 0x1B80_00040035,
    0x1B80_00040037, 0x1B80_05C00045, 0x1B80_05C00047, 0x1B80_00070055, 0x1B80_00070057,
    0x1B80_64000065, 0x1B80_64000067, 0x1B80_00020075, 0x1B80_00020077, 0x1B80_00080085,
    0x1B80_00080087, 0x1B80_80000095, 0x1B80_80000097, 0x1B80_090100A5, 0x1B80_090100A7,
    0x1B80_0F0200B5, 0x1B80_0F0200B7, 0x1B80_002400C5, 0x1B80_002400C7, 0x1B80_000400D5,
    0x1B80_000400D7, 0x1B80_05C000E5, 0x1B80_05C000E7, 0x1B80_000700F5, 0x1B80_000700F7,
    0x1B80_64020105, 0x1B80_64020107, 0x1B80_00020115, 0x1B80_00020117, 0x1B80_00040125,
    0x1B80_00040127, 0x1B80_4A000135, 0x1B80_4A000137, 0x1B80_4B040145, 0x1B80_4B040147,
    0x1B80_85030155, 0x1B80_85030157, 0x1B80_40010165, 0x1B80_40010167, 0x1B80_E0290175,
    0x1B80_E0290177, 0x1B80_00040185, 0x1B80_00040187, 0x1B80_4B050195, 0x1B80_4B050197,
    0x1B80_860301A5, 0x1B80_860301A7, 0x1B80_400301B5, 0x1B80_400301B7, 0x1B80_E02901C5,
    0x1B80_E02901C7, 0x1B80_000401D5, 0x1B80_000401D7, 0x1B80_4B0601E5, 0x1B80_4B0601E7,
    0x1B80_870301F5, 0x1B80_870301F7, 0x1B80_40050205, 0x1B80_40050207, 0x1B80_E0290215,
    0x1B80_E0290217, 0x1B80_00040225, 0x1B80_00040227, 0x1B80_4B070235, 0x1B80_4B070237,
    0x1B80_88030245, 0x1B80_88030247, 0x1B80_40070255, 0x1B80_40070257, 0x1B80_E0290265,
    0x1B80_E0290267, 0x1B80_4B000275, 0x1B80_4B000277, 0x1B80_30000285, 0x1B80_30000287,
    0x1B80_FE100295, 0x1B80_FE100297, 0x1B80_FF1002A5, 0x1B80_FF1002A7, 0x1B80_E18602B5,
    0x1B80_E18602B7, 0x1B80_F00A02C5, 0x1B80_F00A02C7, 0x1B80_F10A02D5, 0x1B80_F10A02D7,
    0x1B80_F20A02E5, 0x1B80_F20A02E7, 0x1B80_F30802F5, 0x1B80_F30802F7, 0x1B80_F4070305,
    0x1B80_F4070307, 0x1B80_F5060315, 0x1B80_F5060317, 0x1B80_F7060325, 0x1B80_F7060327,
    0x1B80_F8050335, 0x1B80_F8050337, 0x1B80_F9040345, 0x1B80_F9040347, 0x1B80_00010355,
    0x1B80_00010357, 0x1B80_303B0365, 0x1B80_303B0367, 0x1B80_30500375, 0x1B80_30500377,
    0x1B80_305C0385, 0x1B80_305C0387, 0x1B80_31D50395, 0x1B80_31D50397, 0x1B80_31C503A5,
    0x1B80_31C503A7, 0x1B80_4D0403B5, 0x1B80_4D0403B7, 0x1B80_2EF003C5, 0x1B80_2EF003C7,
    0x1B80_000203D5, 0x1B80_000203D7, 0x1B80_208003E5, 0x1B80_208003E7, 0x1B80_000003F5,
    0x1B80_000003F7, 0x1B80_4D000405, 0x1B80_4D000407, 0x1B80_55070415, 0x1B80_55070417,
    0x1B80_E1230425, 0x1B80_E1230427, 0x1B80_E1230435, 0x1B80_E1230437, 0x1B80_4D040445,
    0x1B80_4D040447, 0x1B80_20800455, 0x1B80_20800457, 0x1B80_84000465, 0x1B80_84000467,
    0x1B80_4D000475, 0x1B80_4D000477, 0x1B80_550F0485, 0x1B80_550F0487, 0x1B80_E1230495,
    0x1B80_E1230497, 0x1B80_4F0204A5, 0x1B80_4F0204A7, 0x1B80_4E0004B5, 0x1B80_4E0004B7,
    0x1B80_530204C5, 0x1B80_530204C7, 0x1B80_520104D5, 0x1B80_520104D7, 0x1B80_E12704E5,
    0x1B80_E12704E7, 0x1B80_000104F5, 0x1B80_000104F7, 0x1B80_5C720505, 0x1B80_5C720507,
    0x1B80_E1320515, 0x1B80_E1320517, 0x1B80_54E50525, 0x1B80_54E50527, 0x1B80_54BF0535,
    0x1B80_54BF0537, 0x1B80_54C50545, 0x1B80_54C50547, 0x1B80_54BE0555, 0x1B80_54BE0557,
    0x1B80_54DF0565, 0x1B80_54DF0567, 0x1B80_0BA60575, 0x1B80_0BA60577, 0x1B80_F3130585,
    0x1B80_F3130587, 0x1B80_F41E0595, 0x1B80_F41E0597, 0x1B80_F53C05A5, 0x1B80_F53C05A7,
    0x1B80_000105B5, 0x1B80_000105B7, 0x1B80_620605C5, 0x1B80_620605C7, 0x1B80_600605D5,
    0x1B80_600605D7, 0x1B80_E1A905E5, 0x1B80_E1A905E7, 0x1B80_0C0005F5, 0x1B80_0C0005F7,
    0x1B80_5C720605, 0x1B80_5C720607, 0x1B80_E1320615, 0x1B80_E1320617, 0x1B80_5CF10625,
    0x1B80_5CF10627, 0x1B80_0C010635, 0x1B80_0C010637, 0x1B80_F2020645, 0x1B80_F2020647,
    0x1B80_30D60655, 0x1B80_30D60657, 0x1B80_0AC60665, 0x1B80_0AC60667, 0x1B80_E1B60675,
    0x1B80_E1B60677, 0x1B80_E1580685, 0x1B80_E1580687, 0x1B80_54E50695, 0x1B80_54E50697,
    0x1B80_000106A5]

def fullInit4 : List Nat :=
  [0x1B80_000106A7, 0x1B80_560106B5, 0x1B80_560106B7, 0x1B80_5CE206C5, 0x1B80_5CE206C7,
    0x1B80_0AE106D5, 0x1B80_0AE106D7, 0x1B80_630C06E5, 0x1B80_630C06E7, 0x1B80_E13F06F5,
    0x1B80_E13F06F7, 0x1B80_00270705, 0x1B80_00270707, 0x1B80_E16C0715, 0x1B80_E16C0717,
    0x1B80_00020725, 0x1B80_00020727, 0x1B80_002A0735, 0x1B80_002A0737, 0x1B80_07140745,
    0x1B80_07140747, 0x1B80_00020755, 0x1B80_00020757, 0x1B80_30C30765, 0x1B80_30C30767,
    0x1B80_56010775, 0x1B80_56010777, 0x1B80_5CE20785, 0x1B80_5CE20787, 0x1B80_0AE10795,
    0x1B80_0AE10797, 0x1B80_631707A5, 0x1B80_631707A7, 0x1B80_E13F07B5, 0x1B80_E13F07B7,
    0x1B80_002507C5, 0x1B80_002507C7, 0x1B80_E16C07D5, 0x1B80_E16C07D7, 0x1B80_000207E5,
    0x1B80_000207E7, 0x1B80_630F07F5, 0x1B80_630F07F7, 0x1B80_E13F0805, 0x1B80_E13F0807,
    0x1B80_63070815, 0x1B80_63070817, 0x1B80_E13F0825, 0x1B80_E13F0827, 0x1B80_07140835,
    0x1B80_07140837, 0x1B80_56000845, 0x1B80_56000847, 0x1B80_5CF20855, 0x1B80_5CF20857,
    0x1B80_0AF10865, 0x1B80_0AF10867, 0x1B80_07140875, 0x1B80_07140877, 0x1B80_07140885,
    0x1B80_07140887, 0x1B80_630F0895, 0x1B80_630F0897, 0x1B80_E13F08A5, 0x1B80_E13F08A7,
    0x1B80_631708B5, 0x1B80_631708B7, 0x1B80_E13F08C5, 0x1B80_E13F08C7, 0x1B80_002508D5,
    0x1B80_002508D7, 0x1B80_E16C08E5, 0x1B80_E16C08E7, 0x1B80_000208F5, 0x1B80_000208F7,
    0x1B80_30C30905, 0x1B80_30C30907, 0x1B80_E1A90915, 0x1B80_E1A90917, 0x1B80_62060925,
    0x1B80_62060927, 0x1B80_60060935, 0x1B80_60060937, 0x1B80_E1160945, 0x1B80_E1160947,
    0x1B80_54BE0955, 0x1B80_54BE0957, 0x1B80_56010965, 0x1B80_56010967, 0x1B80_5CE20975,
    0x1B80_5CE20977, 0x1B80_0AE10985, 0x1B80_0AE10987, 0x1B80_633A0995, 0x1B80_633A0997,
    0x1B80_E13F09A5, 0x1B80_E13F09A7, 0x1B80_633709B5, 0x1B80_633709B7, 0x1B80_E13F09C5,
    0x1B80_E13F09C7, 0x1B80_632F09D5, 0x1B80_632F09D7, 0x1B80_E13F09E5, 0x1B80_E13F09E7,
    0x1B80_632709F5, 0x1B80_632709F7, 0x1B80_E13F0A05, 0x1B80_E13F0A07, 0x1B80_631F0A15,
    0x1B80_631F0A17, 0x1B80_E13F0A25, 0x1B80_E13F0A27, 0x1B80_63170A35, 0x1B80_63170A37,
    0x1B80_E13F0A45, 0x1B80_E13F0A47, 0x1B80_630F0A55, 0x1B80_630F0A57, 0x1B80_E13F0A65,
    0x1B80_E13F0A67, 0x1B80_63070A75, 0x1B80_63070A77, 0x1B80_E13F0A85, 0x1B80_E13F0A87,
    0x1B80_E16C0A95, 0x1B80_E16C0A97, 0x1B80_56000AA5, 0x1B80_56000AA7, 0x1B80_5CF20AB5,
    0x1B80_5CF20AB7, 0x1B80_0AF10AC5, 0x1B80_0AF10AC7, 0x1B80_F5040AD5, 0x1B80_F5040AD7,
    0x1B80_E13F0AE5, 0x1B80_E13F0AE7, 0x1B80_E16C0AF5, 0x1B80_E16C0AF7, 0x1B80_30B30B05,
    0x1B80_30B30B07, 0x1B80_07140B15, 0x1B80_07140B17, 0x1B80_07140B25, 0x1B80_07140B27,
    0x1B80_630F0B35, 0x1B80_630F0B37, 0x1B80_E13F0B45, 0x1B80_E13F0B47, 0x1B80_63170B55,
    0x1B80_63170B57, 0x1B80_E13F0B65, 0x1B80_E13F0B67, 0x1B80_631F0B75, 0x1B80_631F0B77,
    0x1B80_E13F0B85, 0x1B80_E13F0B87, 0x1B80_63270B95, 0x1B80_63270B97, 0x1B80_E13F0BA5,
    0x1B80_E13F0BA7, 0x1B80_632F0BB5, 0x1B80_632F0BB7, 0x1B80_E13F0BC5, 0x1B80_E13F0BC7,
    0x1B80_63370BD5, 0x1B80_63370BD7, 0x1B80_E13F0BE5, 0x1B80_E13F0BE7, 0x1B80_633A0BF5,
    0x1B80_633A0BF7, 0x1B80_E13F0C05, 0x1B80_E13F0C07, 0x1B80_F60B0C15, 0x1B80_F60B0C17,
    0x1B80_F7170C25, 0x1B80_F7170C27, 0x1B80_4D300C35, 0x1B80_4D300C37, 0x1B80_57040C45,
    0x1B80_57040C47, 0x1B80_57000C55, 0x1B80_57000C57, 0x1B80_96000C65, 0x1B80_96000C67,
    0x1B80_57080C75, 0x1B80_57080C77, 0x1B80_57000C85, 0x1B80_57000C87, 0x1B80_95000C95,
    0x1B80_95000C97, 0x1B80_4D000CA5, 0x1B80_4D000CA7, 0x1B80_6C070CB5, 0x1B80_6C070CB7,
    0x1B80_00010CC5, 0x1B80_00010CC7, 0x1B80_00220CD5, 0x1B80_00220CD7, 0x1B80_06140CE5,
    0x1B80_06140CE7, 0x1B80_E16C0CF5, 0x1B80_E16C0CF7, 0x1B80_00020D05, 0x1B80_00020D07,
    0x1B80_00250D15, 0x1B80_00250D17, 0x1B80_06140D25, 0x1B80_06140D27, 0x1B80_E16C0D35,
    0x1B80_E16C0D37, 0x1B80_00020D45, 0x1B80_00020D47, 0x1B80_00010D55, 0x1B80_00010D57,
    0x1B80_00320D65, 0x1B80_00320D67, 0x1B80_E16C0D75, 0x1B80_E16C0D77, 0x1B80_00020D85,
    0x1B80_00020D87, 0x1B80_E1860D95, 0x1B80_E1860D97, 0x1B80_E1B60DA5, 0x1B80_E1B60DA7,
    0x1B80_5CD10DB5, 0x1B80_5CD10DB7, 0x1B80_673A0DC5, 0x1B80_673A0DC7, 0x1B80_E1230DD5,
    0x1B80_E1230DD7, 0x1B80_F80B0DE5, 0x1B80_F80B0DE7, 0x1B80_F9110DF5, 0x1B80_F9110DF7,
    0x1B80_E1580E05, 0x1B80_E1580E07, 0x1B80_67370E15, 0x1B80_67370E17, 0x1B80_E1580E25,
    0x1B80_E1580E27, 0x1B80_672F0E35, 0x1B80_672F0E37, 0x1B80_E1580E45, 0x1B80_E1580E47,
    0x1B80_67270E55, 0x1B80_67270E57, 0x1B80_E1580E65, 0x1B80_E1580E67, 0x1B80_671F0E75,
    0x1B80_671F0E77, 0x1B80_E1580E85, 0x1B80_E1580E87, 0x1B80_67170E95, 0x1B80_67170E97,
    0x1B80_E1580EA5]

def fullInit5 : List Nat :=
  [0x1B80_E1580EA7, 0x1B80_F8020EB5, 0x1B80_F8020EB7, 0x1B80_30EE0EC5, 0x1B80_30EE0EC7,
    0x1B80_E0D10ED5, 0x1B80_E0D10ED7, 0x1B80_670F0EE5, 0x1B80_670F0EE7, 0x1B80_E1580EF5,
    0x1B80_E1580EF7, 0x1B80_67070F05, 0x1B80_67070F07, 0x1B80_E1580F15, 0x1B80_E1580F17,
    0x1B80_F9020F25, 0x1B80_F9020F27, 0x1B80_30F50F35, 0x1B80_30F50F37, 0x1B80_E0CD0F45,
    0x1B80_E0CD0F47, 0x1B80_06140F55, 0x1B80_06140F57, 0x1B80_E16C0F65, 0x1B80_E16C0F67,
    0x1B80_5CF10F75, 0x1B80_5CF10F77, 0x1B80_E1580F85, 0x1B80_E1580F87, 0x1B80_06140F95,
    0x1B80_06140F97, 0x1B80_E16C0FA5, 0x1B80_E16C0FA7, 0x1B80_F9020FB5, 0x1B80_F9020FB7,
    0x1B80_30FF0FC5, 0x1B80_30FF0FC7, 0x1B80_E0CD0FD5, 0x1B80_E0CD0FD7, 0x1B80_31130FE5,
    0x1B80_31130FE7, 0x1B80_670F0FF5, 0x1B80_670F0FF7, 0x1B80_E1581005, 0x1B80_E1581007,
    0x1B80_67171015, 0x1B80_67171017, 0x1B80_E1581025, 0x1B80_E1581027, 0x1B80_F8021035,
    0x1B80_F8021037, 0x1B80_31071045, 0x1B80_31071047, 0x1B80_E0D11055, 0x1B80_E0D11057,
    0x1B80_31131065, 0x1B80_31131067, 0x1B80_670F1075, 0x1B80_670F1077, 0x1B80_E1581085,
    0x1B80_E1581087, 0x1B80_671F1095, 0x1B80_671F1097, 0x1B80_E15810A5, 0x1B80_E15810A7,
    0x1B80_672710B5, 0x1B80_672710B7, 0x1B80_E15810C5, 0x1B80_E15810C7, 0x1B80_672F10D5,
    0x1B80_672F10D7, 0x1B80_E15810E5, 0x1B80_E15810E7, 0x1B80_673710F5, 0x1B80_673710F7,
    0x1B80_E1581105, 0x1B80_E1581107, 0x1B80_673A1115, 0x1B80_673A1117, 0x1B80_E1581125,
    0x1B80_E1581127, 0x1B80_4D101135, 0x1B80_4D101137, 0x1B80_30C41145, 0x1B80_30C41147,
    0x1B80_00011155, 0x1B80_00011157, 0x1B80_6F241165, 0x1B80_6F241167, 0x1B80_6E401175,
    0x1B80_6E401177, 0x1B80_6D001185, 0x1B80_6D001187, 0x1B80_55031195, 0x1B80_55031197,
    0x1B80_312311A5, 0x1B80_312311A7, 0x1B80_6F1C11B5, 0x1B80_6F1C11B7, 0x1B80_6E4011C5,
    0x1B80_6E4011C7, 0x1B80_550B11D5, 0x1B80_550B11D7, 0x1B80_312311E5, 0x1B80_312311E7,
    0x1B80_061C11F5, 0x1B80_061C11F7, 0x1B80_54DE1205, 0x1B80_54DE1207, 0x1B80_06DC1215,
    0x1B80_06DC1217, 0x1B80_55131225, 0x1B80_55131227, 0x1B80_74011235, 0x1B80_74011237,
    0x1B80_74001245, 0x1B80_74001247, 0x1B80_8E001255, 0x1B80_8E001257, 0x1B80_00011265,
    0x1B80_00011267, 0x1B80_57021275, 0x1B80_57021277, 0x1B80_57001285, 0x1B80_57001287,
    0x1B80_97001295, 0x1B80_97001297, 0x1B80_000112A5, 0x1B80_000112A7, 0x1B80_54BF12B5,
    0x1B80_54BF12B7, 0x1B80_54C112C5, 0x1B80_54C112C7, 0x1B80_54A212D5, 0x1B80_54A212D7,
    0x1B80_54C012E5, 0x1B80_54C012E7, 0x1B80_54A112F5, 0x1B80_54A112F7, 0x1B80_54DF1305,
    0x1B80_54DF1307, 0x1B80_00011315, 0x1B80_00011317, 0x1B80_55001325, 0x1B80_55001327,
    0x1B80_E1231335, 0x1B80_E1231337, 0x1B80_54811345, 0x1B80_54811347, 0x1B80_E1231355,
    0x1B80_E1231357, 0x1B80_54801365, 0x1B80_54801367, 0x1B80_002A1375, 0x1B80_002A1377,
    0x1B80_E12B1385, 0x1B80_E12B1387, 0x1B80_E1231395, 0x1B80_E1231397, 0x1B80_548013A5,
    0x1B80_548013A7, 0x1B80_E17213B5, 0x1B80_E17213B7, 0x1B80_BF3013C5, 0x1B80_BF3013C7,
    0x1B80_000213D5, 0x1B80_000213D7, 0x1B80_302813E5, 0x1B80_302813E7, 0x1B80_4F7813F5,
    0x1B80_4F7813F7, 0x1B80_4E001405, 0x1B80_4E001407, 0x1B80_53871415, 0x1B80_53871417,
    0x1B80_52F11425, 0x1B80_52F11427, 0x1B80_E1161435, 0x1B80_E1161437, 0x1B80_E11B1445,
    0x1B80_E11B1447, 0x1B80_E11F1455, 0x1B80_E11F1457, 0x1B80_E1271465, 0x1B80_E1271467,
    0x1B80_54811475, 0x1B80_54811477, 0x1B80_E1161485, 0x1B80_E1161487, 0x1B80_E11B1495,
    0x1B80_E11B1497, 0x1B80_E11F14A5, 0x1B80_E11F14A7, 0x1B80_E12714B5, 0x1B80_E12714B7,
    0x1B80_548014C5, 0x1B80_548014C7, 0x1B80_002A14D5, 0x1B80_002A14D7, 0x1B80_E12B14E5,
    0x1B80_E12B14E7, 0x1B80_E11614F5, 0x1B80_E11614F7, 0x1B80_E11B1505, 0x1B80_E11B1507,
    0x1B80_E11F1515, 0x1B80_E11F1517, 0x1B80_E1271525, 0x1B80_E1271527, 0x1B80_54801535,
    0x1B80_54801537, 0x1B80_E1721545, 0x1B80_E1721547, 0x1B80_BF171555, 0x1B80_BF171557,
    0x1B80_00021565, 0x1B80_00021567, 0x1B80_30281575, 0x1B80_30281577, 0x1B80_06141585,
    0x1B80_06141587, 0x1B80_73201595, 0x1B80_73201597, 0x1B80_720015A5, 0x1B80_720015A7,
    0x1B80_710015B5, 0x1B80_710015B7, 0x1B80_550115C5, 0x1B80_550115C7, 0x1B80_E12315D5,
    0x1B80_E12315D7, 0x1B80_E12715E5, 0x1B80_E12715E7, 0x1B80_548115F5, 0x1B80_548115F7,
    0x1B80_E1231605, 0x1B80_E1231607, 0x1B80_E1271615, 0x1B80_E1271617, 0x1B80_54801625,
    0x1B80_54801627, 0x1B80_002A1635, 0x1B80_002A1637, 0x1B80_E12B1645, 0x1B80_E12B1647,
    0x1B80_E1231655, 0x1B80_E1231657, 0x1B80_E1271665, 0x1B80_E1271667, 0x1B80_54801675,
    0x1B80_54801677, 0x1B80_E1721685, 0x1B80_E1721687, 0x1B80_BF031695, 0x1B80_BF031697,
    0x1B80_000216A5]

def fullInit6 : List Nat :=
  [0x1B80_000216A7, 0x1B80_302816B5, 0x1B80_302816B7, 0x1B80_54BF16C5, 0x1B80_54BF16C7,
    0x1B80_54C516D5, 0x1B80_54C516D7, 0x1B80_050A16E5, 0x1B80_050A16E7, 0x1B80_071416F5,
    0x1B80_071416F7, 0x1B80_54DF1705, 0x1B80_54DF1707, 0x1B80_00011715, 0x1B80_00011717,
    0x1B80_54BF1725, 0x1B80_54BF1727, 0x1B80_54C01735, 0x1B80_54C01737, 0x1B80_54A31745,
    0x1B80_54A31747, 0x1B80_54C11755, 0x1B80_54C11757, 0x1B80_54A41765, 0x1B80_54A41767,
    0x1B80_4C831775, 0x1B80_4C831777, 0x1B80_4C031785, 0x1B80_4C031787, 0x1B80_BF0B1795,
    0x1B80_BF0B1797, 0x1B80_54C217A5, 0x1B80_54C217A7, 0x1B80_54A417B5, 0x1B80_54A417B7,
    0x1B80_4C8517C5, 0x1B80_4C8517C7, 0x1B80_4C0517D5, 0x1B80_4C0517D7, 0x1B80_BF0617E5,
    0x1B80_BF0617E7, 0x1B80_54C117F5, 0x1B80_54C117F7, 0x1B80_54A31805, 0x1B80_54A31807,
    0x1B80_4C861815, 0x1B80_4C861817, 0x1B80_4C061825, 0x1B80_4C061827, 0x1B80_BF011835,
    0x1B80_BF011837, 0x1B80_54DF1845, 0x1B80_54DF1847, 0x1B80_00011855, 0x1B80_00011857,
    0x1B80_00071865, 0x1B80_00071867, 0x1B80_54011875, 0x1B80_54011877, 0x1B80_00041885,
    0x1B80_00041887, 0x1B80_56001895, 0x1B80_56001897, 0x1B80_5CF218A5, 0x1B80_5CF218A7,
    0x1B80_630718B5, 0x1B80_630718B7, 0x1B80_620418C5, 0x1B80_620418C7, 0x1B80_610018D5,
    0x1B80_610018D7, 0x1B80_670718E5, 0x1B80_670718E7, 0x1B80_660618F5, 0x1B80_660618F7,
    0x1B80_6F201905, 0x1B80_6F201907, 0x1B80_6E001915, 0x1B80_6E001917, 0x1B80_6D001925,
    0x1B80_6D001927, 0x1B80_6C031935, 0x1B80_6C031937, 0x1B80_73201945, 0x1B80_73201947,
    0x1B80_72001955, 0x1B80_72001957, 0x1B80_71001965, 0x1B80_71001967, 0x1B80_7B201975,
    0x1B80_7B201977, 0x1B80_7A001985, 0x1B80_7A001987, 0x1B80_79001995, 0x1B80_79001997,
    0x1B80_7F2019A5, 0x1B80_7F2019A7, 0x1B80_7E0019B5, 0x1B80_7E0019B7, 0x1B80_7D0019C5,
    0x1B80_7D0019C7, 0x1B80_090119D5, 0x1B80_090119D7, 0x1B80_0AC619E5, 0x1B80_0AC619E7,
    0x1B80_0BA619F5, 0x1B80_0BA619F7, 0x1B80_0C011A05, 0x1B80_0C011A07, 0x1B80_0D021A15,
    0x1B80_0D021A17, 0x1B80_0E041A25, 0x1B80_0E041A27, 0x1B80_0FFF1A35, 0x1B80_0FFF1A37,
    0x1B80_4D041A45, 0x1B80_4D041A47, 0x1B80_28F81A55, 0x1B80_28F81A57, 0x1B80_E0001A65,
    0x1B80_E0001A67, 0x1B80_4D001A75, 0x1B80_4D001A77, 0x1B80_00011A85, 0x1B80_00011A87,
    0x1B80_4D041A95, 0x1B80_4D041A97, 0x1B80_2EF81AA5, 0x1B80_2EF81AA7, 0x1B80_00021AB5,
    0x1B80_00021AB7, 0x1B80_23031AC5, 0x1B80_23031AC7, 0x1B80_00001AD5, 0x1B80_00001AD7,
    0x1B80_23131AE5, 0x1B80_23131AE7, 0x1B80_E77F1AF5, 0x1B80_E77F1AF7, 0x1B80_232F1B05,
    0x1B80_232F1B07, 0x1B80_EFBF1B15, 0x1B80_EFBF1B17, 0x1B80_2EF01B25, 0x1B80_2EF01B27,
    0x1B80_00021B35, 0x1B80_00021B37, 0x1B80_4D001B45, 0x1B80_4D001B47, 0x1B80_00011B55,
    0x1B80_00011B57, 0x1B80_4D041B65, 0x1B80_4D041B67, 0x1B80_2EF81B75, 0x1B80_2EF81B77,
    0x1B80_00021B85, 0x1B80_00021B87, 0x1B80_23031B95, 0x1B80_23031B97, 0x1B80_00001BA5,
    0x1B80_00001BA7, 0x1B80_23131BB5, 0x1B80_23131BB7, 0x1B80_E77F1BC5, 0x1B80_E77F1BC7,
    0x1B80_232F1BD5, 0x1B80_232F1BD7, 0x1B80_E79F1BE5, 0x1B80_E79F1BE7, 0x1B80_2EF01BF5,
    0x1B80_2EF01BF7, 0x1B80_00021C05, 0x1B80_00021C07, 0x1B80_28F81C15, 0x1B80_28F81C17,
    0x1B80_80001C25, 0x1B80_80001C27, 0x1B80_4D001C35, 0x1B80_4D001C37, 0x1B80_00011C45,
    0x1B80_00011C47, 0x1B80_00041C55, 0x1B80_00041C57, 0x1B80_6BC01C65, 0x1B80_6BC01C67,
    0x1B80_4D041C75, 0x1B80_4D041C77, 0x1B80_68241C85, 0x1B80_68241C87, 0x1B80_66061C95,
    0x1B80_66061C97, 0x1B80_650C1CA5, 0x1B80_650C1CA7, 0x1B80_64471CB5, 0x1B80_64471CB7,
    0x1B80_23411CC5, 0x1B80_23411CC7, 0x1B80_100E1CD5, 0x1B80_100E1CD7, 0x1B80_60101CE5,
    0x1B80_60101CE7, 0x1B80_23411CF5, 0x1B80_23411CF7, 0x1B80_60811D05, 0x1B80_60811D07,
    0x1B80_23411D15, 0x1B80_23411D17, 0x1B80_70E11D25, 0x1B80_70E11D27, 0x1B80_4D001D35,
    0x1B80_4D001D37, 0x1B80_00011D45, 0x1B80_00011D47, 0x1B80_00041D55, 0x1B80_00041D57,
    0x1B80_6B401D65, 0x1B80_6B401D67, 0x1B80_4D041D75, 0x1B80_4D041D77, 0x1B80_68481D85,
    0x1B80_68481D87, 0x1B80_66061D95, 0x1B80_66061D97, 0x1B80_65081DA5, 0x1B80_65081DA7,
    0x1B80_64471DB5, 0x1B80_64471DB7, 0x1B80_23411DC5, 0x1B80_23411DC7, 0x1B80_11E41DD5,
    0x1B80_11E41DD7, 0x1B80_60011DE5, 0x1B80_60011DE7, 0x1B80_23411DF5, 0x1B80_23411DF7,
    0x1B80_60E11E05, 0x1B80_60E11E07, 0x1B80_23411E15, 0x1B80_23411E17, 0x1B80_70611E25,
    0x1B80_70611E27, 0x1B80_4D001E35, 0x1B80_4D001E37, 0x1B80_00011E45, 0x1B80_00011E47,
    0x1B80_00001E55, 0x1B80_00001E57, 0x1B80_00001E65, 0x1B80_00001E67, 0x1B80_00001E75,
    0x1B80_00001E77, 0x1B80_00001E85, 0x1B80_00001E87, 0x1B80_00001E95, 0x1B80_00001E97,
    0x1B80_00001EA5]

def fullInit7 : List Nat :=
  [0x1B80_00001EA7, 0x1B80_00001EB5, 0x1B80_00001EB7, 0x1B80_00001EC5, 0x1B80_00001EC7,
    0x1B80_00001ED5, 0x1B80_00001ED7, 0x1B80_00001EE5, 0x1B80_00001EE7, 0x1B80_00001EF5,
    0x1B80_00001EF7, 0x1B80_00001F05, 0x1B80_00001F07, 0x1B80_00001F15, 0x1B80_00001F17,
    0x1B80_00001F25, 0x1B80_00001F27, 0x1B80_00001F35, 0x1B80_00001F37, 0x1B80_00001F45,
    0x1B80_00001F47, 0x1B80_00001F55, 0x1B80_00001F57, 0x1B80_00001F65, 0x1B80_00001F67,
    0x1B80_00001F75, 0x1B80_00001F77, 0x1B80_00001F85, 0x1B80_00001F87, 0x1B80_00001F95,
    0x1B80_00001F97, 0x1B80_00001FA5, 0x1B80_00001FA7, 0x1B80_00001FB5, 0x1B80_00001FB7,
    0x1B80_00001FC5, 0x1B80_00001FC7, 0x1B80_00001FD5, 0x1B80_00001FD7, 0x1B80_00001FE5,
    0x1B80_00001FE7, 0x1B80_00001FF5, 0x1B80_00001FF7, 0x1B80_00000006, 0x1B80_00000002,
    0x081C_FF000003, 0x081C_FE000003, 0x081C_FD020003, 0x081C_FC040003, 0x081C_FB060003,
    0x081C_FA080003, 0x081C_F90A0003, 0x081C_F80C0003, 0x081C_F70E0003, 0x081C_F6100003,
    0x081C_F5120003, 0x081C_F4140003, 0x081C_F3160003, 0x081C_F2180003, 0x081C_F11A0003,
    0x081C_F01C0003, 0x081C_EF1E0003, 0x081C_EE200003, 0x081C_ED220003, 0x081C_CF240003,
    0x081C_CE260003, 0x081C_CD280003, 0x081C_CC2A0003, 0x081C_CB2C0003, 0x081C_CA2E0003,
    0x081C_C9300003, 0x081C_C8320003, 0x081C_C7340003, 0x081C_C6360003, 0x081C_C5380003,
    0x081C_C43A0003, 0x081C_A63C0003, 0x081C_A53E0003, 0x081C_A4400003, 0x081C_A3420003,
    0x081C_A2440003, 0x081C_A1460003, 0x081C_86480003, 0x081C_854A0003, 0x081C_844C0003,
    0x081C_834E0003, 0x081C_66500003, 0x081C_65520003, 0x081C_64540003, 0x081C_63560003,
    0x081C_62580003, 0x081C_615A0003, 0x081C_435C0003, 0x081C_425E0003, 0x081C_41600003,
    0x081C_27620003, 0x081C_26640003, 0x081C_25660003, 0x081C_24680003, 0x081C_236A0003,
    0x081C_226C0003, 0x081C_216E0003, 0x081C_21700003, 0x081C_21720003, 0x081C_21740003,
    0x081C_21760003, 0x081C_21780003, 0x081C_217A0003, 0x081C_217C0003, 0x081C_217E0003,
    0x081C_F9000103, 0x081C_F8020103, 0x081C_F7040103, 0x081C_F6060103, 0x081C_F5080103,
    0x081C_F40A0103, 0x081C_F30C0103, 0x081C_F20E0103, 0x081C_F1100103, 0x081C_F0120103,
    0x081C_EF140103, 0x081C_EE160103, 0x081C_ED180103, 0x081C_EC1A0103, 0x081C_EB1C0103,
    0x081C_EA1E0103, 0x081C_E9200103, 0x081C_E8220103, 0x081C_E7240103, 0x081C_E6260103,
    0x081C_E5280103, 0x081C_E42A0103, 0x081C_E32C0103, 0x081C_C32E0103, 0x081C_C2300103,
    0x081C_C1320103, 0x081C_A5340103, 0x081C_A4360103, 0x081C_A3380103, 0x081C_A23A0103,
    0x081C_A13C0103, 0x081C_843E0103, 0x081C_83400103, 0x081C_82420103, 0x081C_81440103,
    0x081C_64460103, 0x081C_63480103, 0x081C_624A0103, 0x081C_614C0103, 0x081C_444E0103,
    0x081C_43500103, 0x081C_42520103, 0x081C_41540103, 0x081C_25560103, 0x081C_24580103,
    0x081C_235A0103, 0x081C_065C0103, 0x081C_055E0103, 0x081C_04600103, 0x081C_03620103,
    0x081C_02640103, 0x081C_01660103, 0x081C_01680103, 0x081C_016A0103, 0x081C_016C0103,
    0x081C_016E0103, 0x081C_01700103, 0x081C_01720103, 0x081C_01740103, 0x081C_01760103,
    0x081C_01780103, 0x081C_017A0103, 0x081C_017C0103, 0x081C_017E0103, 0x081C_FA000203,
    0x081C_F9020203, 0x081C_F8040203, 0x081C_F7060203, 0x081C_F6080203, 0x081C_F50A0203,
    0x081C_F40C0203, 0x081C_F30E0203, 0x081C_F2100203, 0x081C_F1120203, 0x081C_F0140203,
    0x081C_EF160203, 0x081C_EE180203, 0x081C_ED1A0203, 0x081C_EC1C0203, 0x081C_EB1E0203,
    0x081C_EA200203, 0x081C_E9220203, 0x081C_E8240203, 0x081C_E7260203, 0x081C_E6280203,
    0x081C_E52A0203, 0x081C_E42C0203, 0x081C_E32E0203, 0x081C_E2300203, 0x081C_E1320203,
    0x081C_A5340203, 0x081C_A4360203, 0x081C_A3380203, 0x081C_A23A0203, 0x081C_A13C0203,
    0x081C_843E0203, 0x081C_83400203, 0x081C_82420203, 0x081C_81440203, 0x081C_63460203,
    0x081C_62480203, 0x081C_614A0203, 0x081C_464C0203, 0x081C_454E0203, 0x081C_44500203,
    0x081C_43520203, 0x081C_42540203, 0x081C_41560203, 0x081C_24580203, 0x081C_235A0203,
    0x081C_065C0203, 0x081C_055E0203, 0x081C_04600203, 0x081C_03620203, 0x081C_02640203,
    0x081C_01660203, 0x081C_01680203, 0x081C_016A0203, 0x081C_016C0203, 0x081C_016E0203,
    0x081C_01700203, 0x081C_01720203, 0x081C_01740203, 0x081C_01760203, 0x081C_01780203,
    0x081C_017A0203, 0x081C_017C0203, 0x081C_017E0203, 0x081C_F8000303, 0x081C_F7020303,
    0x081C_F6040303, 0x081C_F5060303, 0x081C_F4080303, 0x081C_F30A0303, 0x081C_F20C0303,
    0x081C_F10E0303, 0x081C_F0100303, 0x081C_EF120303, 0x081C_EE140303, 0x081C_ED160303,
    0x081C_EC180303, 0x081C_EB1A0303, 0x081C_EA1C0303, 0x081C_E91E0303, 0x081C_E8200303,
    0x081C_E7220303]

def fullInit8 : List Nat :=
  [0x081C_E6240303, 0x081C_E5260303, 0x081C_E4280303, 0x081C_E32A0303, 0x081C_E22C0303,
    0x081C_E12E0303, 0x081C_A6300303, 0x081C_A5320303, 0x081C_A4340303, 0x081C_A3360303,
    0x081C_A2380303, 0x081C_A13A0303, 0x081C_843C0303, 0x081C_833E0303, 0x081C_82400303,
    0x081C_81420303, 0x081C_64440303, 0x081C_63460303, 0x081C_62480303, 0x081C_614A0303,
    0x081C_454C0303, 0x081C_444E0303, 0x081C_43500303, 0x081C_42520303, 0x081C_41540303,
    0x081C_24560303, 0x081C_23580303, 0x081C_065A0303, 0x081C_055C0303, 0x081C_045E0303,
    0x081C_03600303, 0x081C_02620303, 0x081C_01640303, 0x081C_01660303, 0x081C_01680303,
    0x081C_016A0303, 0x081C_016C0303, 0x081C_016E0303, 0x081C_01700303, 0x081C_01720303,
    0x081C_01740303, 0x081C_01760303, 0x081C_01780303, 0x081C_017A0303, 0x081C_017C0303,
    0x081C_017E0303, 0x0C50_00000022, 0x0C50_00000020, 0x0E50_00000022, 0x0E50_00000020,
    0x1850_00000022, 0x1850_00000020, 0x1A50_00000022, 0x1A50_00000020, 0x002C_43CF5820,
    0x0A2C_00900000, 0x0A04_46FF800C, 0x0A04_45FF800C, 0x0C90_01813124, 0x0C90_04000C00,
    0x0C90_05800F98, 0x0C90_07F68004, 0x0C90_0B0FFFFE, 0x0C90_0B13FF48, 0x0C90_0B26AA3F,
    0x0C90_0B3FFC9A, 0x0C90_0B40A78F, 0x0C90_0B500A3F, 0x0C90_0B60C09C, 0x0C90_0B730008,
    0x0C90_0B87400E, 0x0C90_0B9FBF50, 0x0C90_0BA50780, 0x0C90_0BB00000, 0x0C90_0BC40009,
    0x0C90_0BD00000, 0x0C90_0BE00000, 0x0C90_0BF00000, 0x0C90_0EF20000, 0x0C90_03E00000,
    0x0C90_03F30000, 0x0C90_03E20000, 0x0C90_03F40000, 0x0C90_03E40000, 0x0C90_03F30000,
    0x0C90_03E60000, 0x0C90_03F30000, 0x0C90_0EF00000, 0x0C90_0EF10000, 0x0C90_03E00000,
    0x0C90_03F06800, 0x0C90_03E00080, 0x0C90_03F06000, 0x0C90_03E00100, 0x0C90_03F04800,
    0x0C90_03E00180, 0x0C90_03F04000, 0x0C90_03E00200, 0x0C90_03F04000, 0x0C90_03E00280,
    0x0C90_03F02800, 0x0C90_03E00300, 0x0C90_03F02800, 0x0C90_03E00380, 0x0C90_03F02000,
    0x0C90_0EF00000, 0x0C90_0EF40000, 0x0C90_03E00000, 0x0C90_03F000BC, 0x0C90_03E00040,
    0x0C90_03F00053, 0x0C90_03E00050, 0x0C90_03F00050, 0x0C90_03E00060, 0x0C90_03F00050,
    0x0C90_0EF00000, 0x0C90_0EF00400, 0x0C90_03E00006, 0x0C90_041EE080, 0x0C90_03E00008,
    0x0C90_041EE0C0, 0x0C90_03E0000A, 0x0C90_041EE100, 0x0C90_03E0000C, 0x0C90_041EE100,
    0x0C90_0EF00000, 0x0C90_01800006, 0x0C90_086E4B58, 0x0C90_08749F80, 0x0C90_0DF00008,
    0x0C90_0EF02000, 0x0C90_03B3F258, 0x0C90_03B30A58, 0x0C90_03B2FA58, 0x0C90_03B22590,
    0x0C90_03B1FA50, 0x0C90_03B10248, 0x0C90_03B08240, 0x0C90_0EF00100, 0x0C90_0340ADF6,
    0x0C90_03409DF3, 0x0C90_03408DF0, 0x0C90_03407DED, 0x0C90_03406DEA, 0x0C90_03405CED,
    0x0C90_03404CEA, 0x0C90_034034EA, 0x0C90_034024E7, 0x0C90_0340146A, 0x0C90_0340006B,
    0x0C90_0348ADF6, 0x0C90_03489DF3, 0x0C90_03488DF0, 0x0C90_03487DED, 0x0C90_03486DEA,
    0x0C90_03485CED, 0x0C90_03484CEA, 0x0C90_034834EA, 0x0C90_034824E7, 0x0C90_0348146A,
    0x0C90_0348006B, 0x0C90_0EF00000, 0x0C90_0EF020A2, 0x0C90_0DF00080, 0x0C90_03500192,
    0x0C90_03508192, 0x0C90_03510192, 0x0C90_03600024, 0x0C90_03608024, 0x0C90_03610024,
    0x0C90_03618024, 0x0C90_0EF00000, 0x0C90_05100C21, 0x0C90_052006D9, 0x0C90_053FC649,
    0x0C90_0540017E, 0x0C90_0181012A, 0x0C90_0817FC00, 0x0C90_08950110, 0x0C90_08A43E50,
    0x0C90_08B2E180, 0x0C90_08C93C3C, 0x0C90_085F8000, 0x0C90_08DFFFF0, 0x0C90_0EF01000,
    0x0C90_03A0013C, 0x0C90_03B38023, 0x0C90_03C24000, 0x0C90_03A0013C, 0x0C90_03B30023,
    0x0C90_03C48000, 0x0C90_03A0013C, 0x0C90_03B28623, 0x0C90_03C00000, 0x0C90_03A0013C,
    0x0C90_03B21633, 0x0C90_03C00000, 0x0C90_03A0013C, 0x0C90_03B1C633, 0x0C90_03C00000,
    0x0C90_03A0013C, 0x0C90_03B10293, 0x0C90_03C00000, 0x0C90_03A0013C, 0x0C90_03B09593,
    0x0C90_03C00000, 0x0C90_03A00148, 0x0C90_03B0078B, 0x0C90_03C00000, 0x0C90_03A0013C,
    0x0C90_03B78023, 0x0C90_03C24000, 0x0C90_03A0013C, 0x0C90_03B70023, 0x0C90_03C48000,
    0x0C90_03A0013C, 0x0C90_03B68623, 0x0C90_03C00000, 0x0C90_03A0013C, 0x0C90_03B61633,
    0x0C90_03C00000, 0x0C90_03A0013C, 0x0C90_03B5C633, 0x0C90_03C00000, 0x0C90_03A0013C,
    0x0C90_03B50293, 0x0C90_03C00000, 0x0C90_03A0013C, 0x0C90_03B49593, 0x0C90_03C00000,
    0x0C90_03A00148, 0x0C90_03B4078B, 0x0C90_03C00000, 0x0C90_03A0013C, 0x0C90_03BB8023,
    0x0C90_03C84000, 0x0C90_03A0013C, 0x0C90_03BB0023, 0x0C90_03C20000, 0x0C90_03A0013C,
    0x0C90_03BA8623, 0x0C90_03C00000, 0x0C90_03A0013C, 0x0C90_03BA1633, 0x0C90_03C00000,
    0x0C90_03A0013C, 0x0C90_03B9C633, 0x0C90_03C00000, 0x0C90_03A0013C, 0x0C90_03B90293,
    0x0C90_03C00000, 0x0C90_03A0013C, 0x0C90_03B89593, 0x0C90_03C00000, 0x0C90_03A00148,
    0x0C90_03B8078B]

def fullInit9 : List Nat :=
  [0x0C90_03C00000, 0x0C90_0EF00000, 0x0C90_0EF00800, 0x0C90_03B00000, 0x0C90_03A00803,
    0x0C90_03B40000, 0x0C90_03A01000, 0x0C90_03B80000, 0x0C90_03A01002, 0x0C90_0EF00000,
    0x0C90_01813124, 0x0C90_0EF00100, 0x0C90_0344A1AD, 0x0C90_034491AA, 0x0C90_034481A7,
    0x0C90_034470AA, 0x0C90_034460A7, 0x0C90_03445049, 0x0C90_03444046, 0x0C90_03443026,
    0x0C90_03442009, 0x0C90_03441006, 0x0C90_03440003, 0x0C90_0342A1AD, 0x0C90_034291AA,
    0x0C90_034281A7, 0x0C90_034270AA, 0x0C90_034260A7, 0x0C90_03425049, 0x0C90_03424046,
    0x0C90_03423026, 0x0C90_03422009, 0x0C90_03421006, 0x0C90_03420003, 0x0C90_0340A3EC,
    0x0C90_0340938C, 0x0C90_034081AD, 0x0C90_034071AA, 0x0C90_034061A7, 0x0C90_034050AA,
    0x0C90_034040A7, 0x0C90_0340302C, 0x0C90_03402029, 0x0C90_0340100C, 0x0C90_03400009,
    0x0C90_034CA1AD, 0x0C90_034C91AA, 0x0C90_034C81A7, 0x0C90_034C70AA, 0x0C90_034C60A7,
    0x0C90_034C5049, 0x0C90_034C4046, 0x0C90_034C3026, 0x0C90_034C2009, 0x0C90_034C1006,
    0x0C90_034C0003, 0x0C90_034AA1AD, 0x0C90_034A91AA, 0x0C90_034A81A7, 0x0C90_034A70AA,
    0x0C90_034A60A7, 0x0C90_034A5049, 0x0C90_034A4046, 0x0C90_034A3026, 0x0C90_034A2009,
    0x0C90_034A1006, 0x0C90_034A0003, 0x0C90_0348A3EC, 0x0C90_0348938C, 0x0C90_034881AD,
    0x0C90_034871AA, 0x0C90_034861A7, 0x0C90_034850AA, 0x0C90_034840A7, 0x0C90_0348302C,
    0x0C90_03482029, 0x0C90_0348100C, 0x0C90_03480009, 0x0C90_0EF00000, 0x0C90_0DF00001,
    0x0C90_0181712A, 0x0C90_0EF00040, 0x0C90_035006CC, 0x0C90_035086CC, 0x0C90_035106CC,
    0x0C90_035206CC, 0x0C90_035286CC, 0x0C90_035306CC, 0x0C90_035406CC, 0x0C90_035486CC,
    0x0C90_035506CC, 0x0C90_035806CC, 0x0C90_035886CC, 0x0C90_035906CC, 0x0C90_035A06CC,
    0x0C90_035A86CC, 0x0C90_035B06CC, 0x0C90_035C06CC, 0x0C90_035C86CC, 0x0C90_035D06CC,
    0x0C90_0EF00000, 0x0C90_0DF00001, 0x0C90_0181712A, 0x0C90_0EF00010, 0x0C90_03600473,
    0x0C90_03608473, 0x0C90_03610473, 0x0C90_03620473, 0x0C90_03628473, 0x0C90_03630473,
    0x0C90_03640473, 0x0C90_03648473, 0x0C90_03650473, 0x0C90_03680473, 0x0C90_03688473,
    0x0C90_03690473, 0x0C90_036A0473, 0x0C90_036A8473, 0x0C90_036B0473, 0x0C90_036C0473,
    0x0C90_036C8473, 0x0C90_036D0473, 0x0C90_0EF00000, 0x0C90_0EF00008, 0x0C90_03C0027D,
    0x0C90_03C0054A, 0x0C90_03C00821, 0x0C90_03C0127D, 0x0C90_03C0154A, 0x0C90_03C01821,
    0x0C90_03C0227D, 0x0C90_03C0254A, 0x0C90_03C02821, 0x0C90_0EF00000, 0x0C90_061C0D47,
    0x0C90_0620133C, 0x0C90_063750E7, 0x0C90_06414FEC, 0x0C90_065920D0, 0x0C90_06600040,
    0x0C90_05750000, 0x0C90_05651DF0, 0x0C90_05582061, 0x0C90_01C739D2, 0x0C90_01F2255C,
    0x0C90_0B17FF48, 0x0C90_0C481700, 0x0C90_0181B126, 0x0C90_01813126, 0x0C90_01813124,
    0x0E90_01813124, 0x0E90_04000C00, 0x0E90_05800F98, 0x0E90_07F68004, 0x0E90_01800006,
    0x0E90_086E4B58, 0x0E90_08749F80, 0x0E90_0DF00008, 0x0E90_0EF02000, 0x0E90_03B3F258,
    0x0E90_03B30A58, 0x0E90_03B2FA58, 0x0E90_03B22590, 0x0E90_03B1FA50, 0x0E90_03B10248,
    0x0E90_03B08240, 0x0E90_0EF00100, 0x0E90_0340ADF6, 0x0E90_03409DF3, 0x0E90_03408DF0,
    0x0E90_03407DED, 0x0E90_03406DEA, 0x0E90_03405CED, 0x0E90_03404CEA, 0x0E90_034034EA,
    0x0E90_034024E7, 0x0E90_0340146A, 0x0E90_0340006B, 0x0E90_0348ADF6, 0x0E90_03489DF3,
    0x0E90_03488DF0, 0x0E90_03487DED, 0x0E90_03486DEA, 0x0E90_03485CED, 0x0E90_03484CEA,
    0x0E90_034834EA, 0x0E90_034824E7, 0x0E90_0348146A, 0x0E90_0348006B, 0x0E90_0EF00000,
    0x0E90_0EF020A2, 0x0E90_0DF00080, 0x0E90_03500192, 0x0E90_03508192, 0x0E90_03510192,
    0x0E90_03600024, 0x0E90_03608024, 0x0E90_03610024, 0x0E90_03618024, 0x0E90_0EF00000,
    0x0E90_05100C21, 0x0E90_052006D9, 0x0E90_053FC649, 0x0E90_0540017E, 0x0E90_0181012A,
    0x0E90_0817FC00, 0x0E90_08950110, 0x0E90_08A43E50, 0x0E90_08B2E180, 0x0E90_08C93C3C,
    0x0E90_085F8000, 0x0E90_08DFFFF0, 0x0E90_0EF01000, 0x0E90_03A0013C, 0x0E90_03B38023,
    0x0E90_03C88000, 0x0E90_03A0013C, 0x0E90_03B30023, 0x0E90_03C48000, 0x0E90_03A0013C,
    0x0E90_03B28623, 0x0E90_03C00000, 0x0E90_03A0013C, 0x0E90_03B21633, 0x0E90_03C00000,
    0x0E90_03A0013C, 0x0E90_03B1C633, 0x0E90_03C00000, 0x0E90_03A0013C, 0x0E90_03B10293,
    0x0E90_03C00000, 0x0E90_03A0013C, 0x0E90_03B09593, 0x0E90_03C00000, 0x0E90_03A00148,
    0x0E90_03B0078B, 0x0E90_03C00000, 0x0E90_03A0013C, 0x0E90_03B78023, 0x0E90_03C20000,
    0x0E90_03A0013C, 0x0E90_03B70023, 0x0E90_03C48000, 0x0E90_03A0013C, 0x0E90_03B68623,
    0x0E90_03C00000, 0x0E90_03A0013C, 0x0E90_03B61633, 0x0E90_03C00000, 0x0E90_03A0013C,
    0x0E90_03B5C633, 0x0E90_03C00000, 0x0E90_03A0013C, 0x0E90_03B50293, 0x0E90_03C00000,
    0x0E90_03A0013C]

def fullInit10 : List Nat :=
  [0x0E90_03B49593, 0x0E90_03C00000, 0x0E90_03A00148, 0x0E90_03B4078B, 0x0E90_03C00000,
    0x0E90_03A0013C, 0x0E90_03BB8023, 0x0E90_03C48000, 0x0E90_03A0013C, 0x0E90_03BB0023,
    0x0E90_03C20000, 0x0E90_03A0013C, 0x0E90_03BA8623, 0x0E90_03C00000, 0x0E90_03A0013C,
    0x0E90_03BA1633, 0x0E90_03C00000, 0x0E90_03A0013C, 0x0E90_03B9C633, 0x0E90_03C00000,
    0x0E90_03A0013C, 0x0E90_03B90293, 0x0E90_03C00000, 0x0E90_03A0013C, 0x0E90_03B89593,
    0x0E90_03C00000, 0x0E90_03A00148, 0x0E90_03B8078B, 0x0E90_03C00000, 0x0E90_0EF00000,
    0x0E90_0EF00800, 0x0E90_03B00000, 0x0E90_03A00803, 0x0E90_03B40000, 0x0E90_03A01000,
    0x0E90_03B80000, 0x0E90_03A01002, 0x0E90_0EF00000, 0x0E90_01813124, 0x0E90_0EF00100,
    0x0E90_0344A38C, 0x0E90_034491AD, 0x0E90_034481AA, 0x0E90_034471A7, 0x0E90_034460AA,
    0x0E90_034450A7, 0x0E90_0344402C, 0x0E90_03443029, 0x0E90_0344200C, 0x0E90_03441009,
    0x0E90_03440006, 0x0E90_0342A38C, 0x0E90_034291AD, 0x0E90_034281AA, 0x0E90_034271A7,
    0x0E90_034260AA, 0x0E90_034250A7, 0x0E90_0342402C, 0x0E90_03423029, 0x0E90_0342200C,
    0x0E90_03421009, 0x0E90_03420006, 0x0E90_0340A38C, 0x0E90_034091AD, 0x0E90_034081AA,
    0x0E90_034071A7, 0x0E90_034060AA, 0x0E90_034050A7, 0x0E90_0340402C, 0x0E90_03403029,
    0x0E90_03402026, 0x0E90_03401009, 0x0E90_03400006, 0x0E90_034CA38C, 0x0E90_034C91AD,
    0x0E90_034C81AA, 0x0E90_034C71A7, 0x0E90_034C60AA, 0x0E90_034C50A7, 0x0E90_034C402C,
    0x0E90_034C3029, 0x0E90_034C200C, 0x0E90_034C1009, 0x0E90_034C0006, 0x0E90_034AA38C,
    0x0E90_034A91AD, 0x0E90_034A81AA, 0x0E90_034A71A7, 0x0E90_034A60AA, 0x0E90_034A50A7,
    0x0E90_034A402C, 0x0E90_034A3029, 0x0E90_034A200C, 0x0E90_034A1009, 0x0E90_034A0006,
    0x0E90_0348A38C, 0x0E90_034891AD, 0x0E90_034881AA, 0x0E90_034871A7, 0x0E90_034860AA,
    0x0E90_034850A7, 0x0E90_0348402C, 0x0E90_03483029, 0x0E90_03482026, 0x0E90_03481009,
    0x0E90_03480006, 0x0E90_0EF00000, 0x0E90_0DF00001, 0x0E90_0181712A, 0x0E90_0EF00040,
    0x0E90_035006CC, 0x0E90_035086CC, 0x0E90_035106CC, 0x0E90_035206CC, 0x0E90_035286CC,
    0x0E90_035306CC, 0x0E90_035406CC, 0x0E90_035486CC, 0x0E90_035506CC, 0x0E90_035806CC,
    0x0E90_035886CC, 0x0E90_035906CC, 0x0E90_035A06CC, 0x0E90_035A86CC, 0x0E90_035B06CC,
    0x0E90_035C06CC, 0x0E90_035C86CC, 0x0E90_035D06CC, 0x0E90_0EF00000, 0x0E90_0DF00001,
    0x0E90_0181712A, 0x0E90_0EF00010, 0x0E90_03600473, 0x0E90_03608473, 0x0E90_03610473,
    0x0E90_03620473, 0x0E90_03628473, 0x0E90_03630473, 0x0E90_03640473, 0x0E90_03648473,
    0x0E90_03650473, 0x0E90_03680473, 0x0E90_03688473, 0x0E90_03690473, 0x0E90_036A0473,
    0x0E90_036A8473, 0x0E90_036B0473, 0x0E90_036C0473, 0x0E90_036C8473, 0x0E90_036D0473,
    0x0E90_0EF00000, 0x0E90_0EF00008, 0x0E90_03C0027E, 0x0E90_03C00546, 0x0E90_03C00821,
    0x0E90_03C0127E, 0x0E90_03C01546, 0x0E90_03C01821, 0x0E90_03C0227E, 0x0E90_03C02546,
    0x0E90_03C02821, 0x0E90_0EF00000, 0x0E90_061C0D47, 0x0E90_0620133C, 0x0E90_063750E7,
    0x0E90_06414FEC, 0x0E90_065920D0, 0x0E90_06600040, 0x0E90_05750000, 0x0E90_05651DF0,
    0x1890_01813124, 0x1890_04000C00, 0x1890_05800F98, 0x1890_07F68004, 0x1890_01800006,
    0x1890_086E4B58, 0x1890_08749F80, 0x1890_0DF00008, 0x1890_0EF02000, 0x1890_03B3F258,
    0x1890_03B30A58, 0x1890_03B2FA58, 0x1890_03B22590, 0x1890_03B1FA50, 0x1890_03B10248,
    0x1890_03B08240, 0x1890_0EF00100, 0x1890_0340ADF6, 0x1890_03409DF3, 0x1890_03408DF0,
    0x1890_03407DED, 0x1890_03406DEA, 0x1890_03405CED, 0x1890_03404CEA, 0x1890_034034EA,
    0x1890_034024E7, 0x1890_0340146A, 0x1890_0340006B, 0x1890_0348ADF6, 0x1890_03489DF3,
    0x1890_03488DF0, 0x1890_03487DED, 0x1890_03486DEA, 0x1890_03485CED, 0x1890_03484CEA,
    0x1890_034834EA, 0x1890_034824E7, 0x1890_0348146A, 0x1890_0348006B, 0x1890_0EF00000,
    0x1890_0EF020A2, 0x1890_0DF00080, 0x1890_03500192, 0x1890_03508192, 0x1890_03510192,
    0x1890_03600024, 0x1890_03608024, 0x1890_03610024, 0x1890_03618024, 0x1890_0EF00000,
    0x1890_05100C21, 0x1890_052006D9, 0x1890_053FC649, 0x1890_0540017E, 0x1890_0181012A,
    0x1890_0817FC00, 0x1890_08950110, 0x1890_08A43E50, 0x1890_08B2E180, 0x1890_08C93C3C,
    0x1890_085F8000, 0x1890_08DFFFF0, 0x1890_0EF01000, 0x1890_03A0013C, 0x1890_03B38023,
    0x1890_03C6C000, 0x1890_03A0013C, 0x1890_03B30023, 0x1890_03C48000, 0x1890_03A0013C,
    0x1890_03B28623, 0x1890_03C00000, 0x1890_03A0013C, 0x1890_03B21633, 0x1890_03C00000,
    0x1890_03A0013C, 0x1890_03B1C633, 0x1890_03C00000, 0x1890_03A0013C, 0x1890_03B10293,
    0x1890_03C00000, 0x1890_03A0013C, 0x1890_03B09593, 0x1890_03C00000, 0x1890_03A00148,
    0x1890_03B0078B]

def fullInit11 : List Nat :=
  [0x1890_03C00000, 0x1890_03A0013C, 0x1890_03B78023, 0x1890_03C4C000, 0x1890_03A0013C,
    0x1890_03B70023, 0x1890_03C48000, 0x1890_03A0013C, 0x1890_03B68623, 0x1890_03C00000,
    0x1890_03A0013C, 0x1890_03B61633, 0x1890_03C00000, 0x1890_03A0013C, 0x1890_03B5C633,
    0x1890_03C00000, 0x1890_03A0013C, 0x1890_03B50293, 0x1890_03C00000, 0x1890_03A0013C,
    0x1890_03B49593, 0x1890_03C00000, 0x1890_03A00148, 0x1890_03B4078B, 0x1890_03C00000,
    0x1890_03A0013C, 0x1890_03BB8023, 0x1890_03C24000, 0x1890_03A0013C, 0x1890_03BB0023,
    0x1890_03C20000, 0x1890_03A0013C, 0x1890_03BA8623, 0x1890_03C00000, 0x1890_03A0013C,
    0x1890_03BA1633, 0x1890_03C00000, 0x1890_03A0013C, 0x1890_03B9C633, 0x1890_03C00000,
    0x1890_03A0013C, 0x1890_03B90293, 0x1890_03C00000, 0x1890_03A0013C, 0x1890_03B89593,
    0x1890_03C00000, 0x1890_03A00148, 0x1890_03B8078B, 0x1890_03C00000, 0x1890_0EF00000,
    0x1890_0EF00800, 0x1890_03B00000, 0x1890_03A00803, 0x1890_03B40000, 0x1890_03A01000,
    0x1890_03B80000, 0x1890_03A01002, 0x1890_0EF00000, 0x1890_01813124, 0x1890_0EF00100,
    0x1890_0344A38C, 0x1890_034491AD, 0x1890_034481AA, 0x1890_034471A7, 0x1890_034460AA,
    0x1890_034450A7, 0x1890_0344402C, 0x1890_03443029, 0x1890_0344200C, 0x1890_03441009,
    0x1890_03440006, 0x1890_0342A3EC, 0x1890_0342938C, 0x1890_034281AD, 0x1890_034271AA,
    0x1890_034261A7, 0x1890_034250AA, 0x1890_034240A7, 0x1890_0342302C, 0x1890_03422029,
    0x1890_0342100C, 0x1890_03420009, 0x1890_0340A38C, 0x1890_034091AD, 0x1890_034081AA,
    0x1890_034071A7, 0x1890_034060AA, 0x1890_034050A7, 0x1890_0340402C, 0x1890_03403029,
    0x1890_0340200C, 0x1890_03401009, 0x1890_03400006, 0x1890_034CA38C, 0x1890_034C91AD,
    0x1890_034C81AA, 0x1890_034C71A7, 0x1890_034C60AA, 0x1890_034C50A7, 0x1890_034C402C,
    0x1890_034C3029, 0x1890_034C200C, 0x1890_034C1009, 0x1890_034C0006, 0x1890_034AA3EC,
    0x1890_034A938C, 0x1890_034A81AD, 0x1890_034A71AA, 0x1890_034A61A7, 0x1890_034A50AA,
    0x1890_034A40A7, 0x1890_034A302C, 0x1890_034A2029, 0x1890_034A100C, 0x1890_034A0009,
    0x1890_0348A38C, 0x1890_034891AD, 0x1890_034881AA, 0x1890_034871A7, 0x1890_034860AA,
    0x1890_034850A7, 0x1890_0348402C, 0x1890_03483029, 0x1890_0348200C, 0x1890_03481009,
    0x1890_03400006, 0x1890_0EF00000, 0x1890_0DF00001, 0x1890_0181712A, 0x1890_0EF00040,
    0x1890_035006CC, 0x1890_035086CC, 0x1890_035106CC, 0x1890_035206CC, 0x1890_035286CC,
    0x1890_035306CC, 0x1890_035406CC, 0x1890_035486CC, 0x1890_035506CC, 0x1890_035806CC,
    0x1890_035886CC, 0x1890_035906CC, 0x1890_035A06CC, 0x1890_035A86CC, 0x1890_035B06CC,
    0x1890_035C06CC, 0x1890_035C86CC, 0x1890_035D06CC, 0x1890_0EF00000, 0x1890_0DF00001,
    0x1890_0181712A, 0x1890_0EF00010, 0x1890_03600473, 0x1890_03608473, 0x1890_03610473,
    0x1890_03620473, 0x1890_03628473, 0x1890_03630473, 0x1890_03640473, 0x1890_03648473,
    0x1890_03650473, 0x1890_03680473, 0x1890_03688473, 0x1890_03690473, 0x1890_036A0473,
    0x1890_036A8473, 0x1890_036B0473, 0x1890_036C0473, 0x1890_036C8473, 0x1890_036D0473,
    0x1890_0EF00000, 0x1890_0EF00008, 0x1890_03C0027D, 0x1890_03C00541, 0x1890_03C00821,
    0x1890_03C0127D, 0x1890_03C01541, 0x1890_03C01821, 0x1890_03C0227D, 0x1890_03C02541,
    0x1890_03C02821, 0x1890_0EF00000, 0x1890_061C0D47, 0x1890_0620133C, 0x1890_063750E7,
    0x1890_06414FEC, 0x1890_065920D0, 0x1890_06600040, 0x1890_05750000, 0x1890_05651DF0,
    0x1A90_01813124, 0x1A90_04000C00, 0x1A90_05800F98, 0x1A90_07F68004, 0x1A90_01800006,
    0x1A90_086E4B58, 0x1A90_08749F80, 0x1A90_0DF00008, 0x1A90_0EF02000, 0x1A90_03B3F258,
    0x1A90_03B30A58, 0x1A90_03B2FA58, 0x1A90_03B22590, 0x1A90_03B1FA50, 0x1A90_03B10248,
    0x1A90_03B08240, 0x1A90_0EF00100, 0x1A90_0340ADF6, 0x1A90_03409DF3, 0x1A90_03408DF0,
    0x1A90_03407DED, 0x1A90_03406DEA, 0x1A90_03405CED, 0x1A90_03404CEA, 0x1A90_034034EA,
    0x1A90_034024E7, 0x1A90_0340146A, 0x1A90_0340006B, 0x1A90_0348ADF6, 0x1A90_03489DF3,
    0x1A90_03488DF0, 0x1A90_03487DED, 0x1A90_03486DEA, 0x1A90_03485CED, 0x1A90_03484CEA,
    0x1A90_034834EA, 0x1A90_034824E7, 0x1A90_0348146A, 0x1A90_0348006B, 0x1A90_0EF00000,
    0x1A90_0EF020A2, 0x1A90_0DF00080, 0x1A90_03500192, 0x1A90_03508192, 0x1A90_03510192,
    0x1A90_03600024, 0x1A90_03608024, 0x1A90_03610024, 0x1A90_03618024, 0x1A90_0EF00000,
    0x1A90_05100C21, 0x1A90_052006D9, 0x1A90_053FC649, 0x1A90_0540017E, 0x1A90_0181012A,
    0x1A90_0817FC00, 0x1A90_08950110, 0x1A90_08A43E50, 0x1A90_08B2E180, 0x1A90_08C93C3C,
    0x1A90_085F8000, 0x1A90_08DFFFF0, 0x1A90_0EF01000, 0x1A90_03A0013C, 0x1A90_03B38023,
    0x1A90_03C44000]

def fullInit12 : List Nat :=
  [0x1A90_03A0013C, 0x1A90_03B30023, 0x1A90_03C48000, 0x1A90_03A0013C, 0x1A90_03B28623,
    0x1A90_03C00000, 0x1A90_03A0013C, 0x1A90_03B21633, 0x1A90_03C00000, 0x1A90_03A0013C,
    0x1A90_03B1C633, 0x1A90_03C00000, 0x1A90_03A0013C, 0x1A90_03B10293, 0x1A90_03C00000,
    0x1A90_03A0013C, 0x1A90_03B09593, 0x1A90_03C00000, 0x1A90_03A00148, 0x1A90_03B0078B,
    0x1A90_03C00000, 0x1A90_03A0013C, 0x1A90_03B78023, 0x1A90_03C20000, 0x1A90_03A0013C,
    0x1A90_03B70023, 0x1A90_03C48000, 0x1A90_03A0013C, 0x1A90_03B68623, 0x1A90_03C00000,
    0x1A90_03A0013C, 0x1A90_03B61633, 0x1A90_03C00000, 0x1A90_03A0013C, 0x1A90_03B5C633,
    0x1A90_03C00000, 0x1A90_03A0013C, 0x1A90_03B50293, 0x1A90_03C00000, 0x1A90_03A0013C,
    0x1A90_03B49593, 0x1A90_03C00000, 0x1A90_03A00148, 0x1A90_03B4078B, 0x1A90_03C00000,
    0x1A90_03A0013C, 0x1A90_03BB8023, 0x1A90_03C04000, 0x1A90_03A0013C, 0x1A90_03BB0023,
    0x1A90_03C20000, 0x1A90_03A0013C, 0x1A90_03BA8623, 0x1A90_03C00000, 0x1A90_03A0013C,
    0x1A90_03BA1633, 0x1A90_03C00000, 0x1A90_03A0013C, 0x1A90_03B9C633, 0x1A90_03C00000,
    0x1A90_03A0013C, 0x1A90_03B90293, 0x1A90_03C00000, 0x1A90_03A0013C, 0x1A90_03B89593,
    0x1A90_03C00000, 0x1A90_03A00148, 0x1A90_03B8078B, 0x1A90_03C00000, 0x1A90_0EF00000,
    0x1A90_0EF00800, 0x1A90_03B00000, 0x1A90_03A00803, 0x1A90_03B40000, 0x1A90_03A01000,
    0x1A90_03B80000, 0x1A90_03A01002, 0x1A90_0EF00000, 0x1A90_01813124, 0x1A90_0EF00100,
    0x1A90_0344A3EB, 0x1A90_0344938B, 0x1A90_034481AC, 0x1A90_034471A9, 0x1A90_034460AC,
    0x1A90_034450A9, 0x1A90_0344402E, 0x1A90_0344302B, 0x1A90_03442028, 0x1A90_0344100B,
    0x1A90_03440008, 0x1A90_0342A3EE, 0x1A90_034293EB, 0x1A90_0342838B, 0x1A90_034271AC,
    0x1A90_034261A9, 0x1A90_034250AC, 0x1A90_034240A9, 0x1A90_034230A6, 0x1A90_0342202C,
    0x1A90_03421029, 0x1A90_03420026, 0x1A90_0340A3EF, 0x1A90_034093EC, 0x1A90_0340838C,
    0x1A90_034071AD, 0x1A90_034061AA, 0x1A90_034050AD, 0x1A90_034040AA, 0x1A90_0340306A,
    0x1A90_0340202D, 0x1A90_0340102A, 0x1A90_03400027, 0x1A90_034CA3EB, 0x1A90_034C938B,
    0x1A90_034C81AC, 0x1A90_034C71A9, 0x1A90_034C60AC, 0x1A90_034C50A9, 0x1A90_034C402E,
    0x1A90_034C302B, 0x1A90_034C2028, 0x1A90_034C100B, 0x1A90_034C0008, 0x1A90_034AA3EE,
    0x1A90_034A93EB, 0x1A90_034A838B, 0x1A90_034A71AC, 0x1A90_034A61A9, 0x1A90_034A50AC,
    0x1A90_034A40A9, 0x1A90_034A30A6, 0x1A90_034A202C, 0x1A90_034A1029, 0x1A90_034A0026,
    0x1A90_0348A3EF, 0x1A90_034893EC, 0x1A90_0348838C, 0x1A90_034871AD, 0x1A90_034861AA,
    0x1A90_034850AD, 0x1A90_034840AA, 0x1A90_0348306A, 0x1A90_0348202D, 0x1A90_0348102A,
    0x1A90_03480027, 0x1A90_0EF00000, 0x1A90_0DF00001, 0x1A90_0181712A, 0x1A90_0EF00040,
    0x1A90_035006CC, 0x1A90_035086CC, 0x1A90_035106CC, 0x1A90_035206CC, 0x1A90_035286CC,
    0x1A90_035306CC, 0x1A90_035406CC, 0x1A90_035486CC, 0x1A90_035506CC, 0x1A90_035806CC,
    0x1A90_035886CC, 0x1A90_035906CC, 0x1A90_035A06CC, 0x1A90_035A86CC, 0x1A90_035B06CC,
    0x1A90_035C06CC, 0x1A90_035C86CC, 0x1A90_035D06CC, 0x1A90_0EF00000, 0x1A90_0DF00001,
    0x1A90_0181712A, 0x1A90_0EF00010, 0x1A90_03600473, 0x1A90_03608473, 0x1A90_03610473,
    0x1A90_03620473, 0x1A90_03628473, 0x1A90_03630473, 0x1A90_03640473, 0x1A90_03648473,
    0x1A90_03650473, 0x1A90_03680473, 0x1A90_03688473, 0x1A90_03690473, 0x1A90_036A0473,
    0x1A90_036A8473, 0x1A90_036B0473, 0x1A90_036C0473, 0x1A90_036C8473, 0x1A90_036D0473,
    0x1A90_0EF00000, 0x1A90_0EF00008, 0x1A90_03C00275, 0x1A90_03C00542, 0x1A90_03C00821,
    0x1A90_03C01275, 0x1A90_03C01542, 0x1A90_03C01821, 0x1A90_03C02275, 0x1A90_03C02542,
    0x1A90_03C02821, 0x1A90_0EF00000, 0x1A90_061C0D47, 0x1A90_0620133C, 0x1A90_063750E7,
    0x1A90_06414FEC, 0x1A90_065920D0, 0x1A90_06600040, 0x1A90_05750000, 0x1A90_05651DF0,
    0x0E90_01C4B532, 0x1890_01C4B532, 0x1A90_01C4B532, 0x0808_3E0282FF, 0x0958_00000000,
    0x0CB0_77777777, 0x0EB0_77777777, 0x18B4_77777777, 0x1AB4_77777777, 0x1ABC_77700000,
    0x080C_1000002F, 0x0A04_45FF800C, 0x0808_3E0282FF, 0x0A80_218075B2, 0x0C1C_40000053,
    0x0E1C_40000053, 0x181C_40000053, 0x1A1C_40000053, 0x08AC_F40F5508, 0x082C_73986170,
    0x0860_72D5C321, 0x0C90_01803001, 0x0E90_01807001, 0x1890_01807001, 0x1A90_01807001,
    0x0A20_1A1B0030, 0x0A24_090E1317, 0x0A28_00000204, 0x08AC_F40F5508, 0x082C_73986170,
    0x0C90_01803C01, 0x0E90_01807C01, 0x1890_01807C01, 0x1A90_01807C01, 0x087C_000FC000,
    0x0874_21612C2E, 0x0880_00000000, 0x0884_00000000, 0x0898_00000000, 0x089C_00000000,
    0x087C_000FC000, 0x1998_22801000, 0x1998_22801000, 0x1998_22801001, 0x1998_22801002,
    0x1998_22801003]

def fullInit13 : List Nat :=
  [0x1998_22801004, 0x1998_22801005, 0x1998_22801006, 0x1998_22801007, 0x1998_22801008,
    0x1998_22801009, 0x1998_2280100A, 0x1998_2280100B, 0x1998_2280100C, 0x1998_2280100D,
    0x1998_2280100E, 0x1998_2280100F, 0x1998_22801010, 0x1998_22801011, 0x1998_22801012,
    0x1998_22801013, 0x1998_2280102C, 0x1998_2280102D, 0x1998_2280102E, 0x1998_2280102F,
    0x1998_22801030, 0x1998_22801031, 0x1998_22801032, 0x1998_22801033, 0x1998_22801034,
    0x1998_22801035, 0x1998_20801014, 0x1998_20801015, 0x1998_20801016, 0x1998_20801017,
    0x1998_20801018, 0x1998_20801019, 0x1998_2080101A, 0x1998_2080101B, 0x1998_20801036,
    0x1998_20801037, 0x1998_20801038, 0x1998_20801039, 0x1998_2080103A, 0x1998_2080103B,
    0x1998_2080103C, 0x1998_2080103D, 0x1998_2080103E, 0x1998_2080103F, 0x1998_2080101C,
    0x1998_2080101D, 0x1998_2080101E, 0x1998_2080101F, 0x1998_20801020, 0x1998_20801021,
    0x1998_20801022, 0x1998_20801023, 0x1998_20801040, 0x1998_20801041, 0x1998_20801042,
    0x1998_20801043, 0x1998_20801044, 0x1998_20801045, 0x1998_20801046, 0x1998_20801047,
    0x1998_20801048, 0x1998_20801049, 0x1998_28801100, 0x1998_28801100, 0x1998_28801101,
    0x1998_28801102, 0x1998_28801103, 0x1998_2B801104, 0x1998_2B801105, 0x1998_2B801106,
    0x1998_2B801107, 0x1998_2B801108, 0x1998_2B801109, 0x1998_2B80110A, 0x1998_2B80110B,
    0x1998_2B80110C, 0x1998_2B80110D, 0x1998_2B80110E, 0x1998_2B80110F, 0x1998_2B801110,
    0x1998_2B801111, 0x1998_2B801112, 0x1998_2B801113, 0x1998_2B80112C, 0x1998_2B80112D,
    0x1998_2B80112E, 0x1998_2B80112F, 0x1998_2B801130, 0x1998_2B801131, 0x1998_2B801132,
    0x1998_2B801133, 0x1998_2B801134, 0x1998_2B801135, 0x1998_29801114, 0x1998_29801115,
    0x1998_29801116, 0x1998_29801117, 0x1998_29801118, 0x1998_29801119, 0x1998_2980111A,
    0x1998_2980111B, 0x1998_29801136, 0x1998_29801137, 0x1998_29801138, 0x1998_29801139,
    0x1998_2980113A, 0x1998_2980113B, 0x1998_2980113C, 0x1998_2980113D, 0x1998_2980113E,
    0x1998_2980113F, 0x1998_2980111C, 0x1998_2980111D, 0x1998_2980111E, 0x1998_2980111F,
    0x1998_29801120, 0x1998_29801121, 0x1998_29801122, 0x1998_29801123, 0x1998_29801140,
    0x1998_29801141, 0x1998_29801142, 0x1998_29801143, 0x1998_29801144, 0x1998_29801145,
    0x1998_29801146, 0x1998_29801147, 0x1998_29801148, 0x1998_29801149, 0x1998_28801200,
    0x1998_28801200, 0x1998_28801201, 0x1998_28801202, 0x1998_28801203, 0x1998_29801204,
    0x1998_29801205, 0x1998_29801206, 0x1998_29801207, 0x1998_29801208, 0x1998_29801209,
    0x1998_2980120A, 0x1998_2980120B, 0x1998_2980120C, 0x1998_2980120D, 0x1998_2980120E,
    0x1998_2980120F, 0x1998_29801210, 0x1998_29801211, 0x1998_29801212, 0x1998_29801213,
    0x1998_2980122C, 0x1998_2980122D, 0x1998_2980122E, 0x1998_2980122F, 0x1998_29801230,
    0x1998_29801231, 0x1998_29801232, 0x1998_29801233, 0x1998_29801234, 0x1998_29801235,
    0x1998_27801214, 0x1998_27801215, 0x1998_27801216, 0x1998_27801217, 0x1998_27801218,
    0x1998_27801219, 0x1998_2780121A, 0x1998_2780121B, 0x1998_27801236, 0x1998_27801237,
    0x1998_27801238, 0x1998_27801239, 0x1998_2780123A, 0x1998_2780123B, 0x1998_2780123C,
    0x1998_2780123D, 0x1998_2780123E, 0x1998_2780123F, 0x1998_2780121C, 0x1998_2780121D,
    0x1998_2780121E, 0x1998_2780121F, 0x1998_27801220, 0x1998_27801221, 0x1998_27801222,
    0x1998_27801223, 0x1998_27801240, 0x1998_27801241, 0x1998_27801242, 0x1998_27801243,
    0x1998_27801244, 0x1998_27801245, 0x1998_27801246, 0x1998_27801247, 0x1998_27801248,
    0x1998_27801249, 0x1998_28801300, 0x1998_28801300, 0x1998_28801301, 0x1998_28801302,
    0x1998_28801303, 0x1998_29801304, 0x1998_29801305, 0x1998_29801306, 0x1998_29801307,
    0x1998_29801308, 0x1998_29801309, 0x1998_2980130A, 0x1998_2980130B, 0x1998_2980130C,
    0x1998_2980130D, 0x1998_2980130E, 0x1998_2980130F, 0x1998_29801310, 0x1998_29801311,
    0x1998_29801312, 0x1998_29801313, 0x1998_2980132C, 0x1998_2980132D, 0x1998_2980132E,
    0x1998_2980132F, 0x1998_29801330, 0x1998_29801331, 0x1998_29801332, 0x1998_29801333,
    0x1998_29801334, 0x1998_29801335, 0x1998_27801314, 0x1998_27801315, 0x1998_27801316,
    0x1998_27801317, 0x1998_27801318, 0x1998_27801319, 0x1998_2780131A, 0x1998_2780131B,
    0x1998_27801336, 0x1998_27801337, 0x1998_27801338, 0x1998_27801339, 0x1998_2780133A,
    0x1998_2780133B, 0x1998_2780133C, 0x1998_2780133D, 0x1998_2780133E, 0x1998_2780133F,
    0x1998_2780131C, 0x1998_2780131D, 0x1998_2780131E, 0x1998_2780131F, 0x1998_27801320,
    0x1998_27801321, 0x1998_27801322, 0x1998_27801323, 0x1998_27801340, 0x1998_27801341,
    0x1998_27801342]

def fullInit14 : List Nat :=
  [0x1998_27801343, 0x1998_27801344, 0x1998_27801345, 0x1998_27801346, 0x1998_27801347,
    0x1998_27801348, 0x1998_27801349, 0x0670_C0000000, 0x04CC_0201FFFF, 0x0A00_00D047C8,
    0x0A70_101FFF00, 0x0A74_00000028, 0x0A14_11144028, 0x0A20_1A1B0010, 0x0A84_9C1F8C00,
    0x0994_FFFF0100, 0x0994_FFFF0000, 0x0994_FFFF0100, 0x0998_302C2824, 0x099C_403C3834,
    0x09A0_00000044, 0x0994_4C480100, 0x0990_2710FFFF, 0x0944_18000000, 0x08A4_7F7F7F7F,
    0x08A4_7F7F7F7F, 0x0520_00002F0F, 0x0524_00FF4F0F, 0x0C90_0EF80000, 0x0E90_0EF80000,
    0x1890_0EF80000, 0x1A90_0EF80000, 0x0C90_03018000, 0x0E90_03018000, 0x1890_03018000,
    0x1A90_03018000, 0x0C90_031BE77F, 0x0C90_032226BF, 0x0E90_031BE77F, 0x0E90_032226BF,
    0x1890_031BE77F, 0x1890_032226BF, 0x1A90_031BE77F, 0x1A90_032226BF, 0x0C90_032E26BF,
    0x0C90_0EF00000, 0x0E90_0EF00000, 0x1890_0EF00000, 0x1A90_0EF00000, 0x0910_0000FC00,
    0x0910_0000EC00, 0x0910_00002C00, 0x0910_00002C00, 0x0910_00002C00, 0x1994_0000007F,
    0x0860_72D5C321, 0x0C90_01803C01, 0x0E90_01807C01, 0x1890_01807C01, 0x1A90_01807C01,
    0x0A20_1A1B0030, 0x0A24_090E1317, 0x0A28_00000204, 0x08AC_F40F5508, 0x082C_73986170,
    0x0C90_01803C01, 0x0E90_01807C01, 0x1890_01807C01, 0x1A90_01807C01, 0x087C_000FC000,
    0x0874_21612C2E, 0x0880_00000000, 0x0884_00000000, 0x0898_00000000, 0x089C_00000000,
    0x087C_000FC000, 0x1998_22801004, 0x1998_22801005, 0x1998_22801006, 0x1998_22801007,
    0x1998_22801008, 0x1998_22801009, 0x1998_2280100A, 0x1998_2280100B, 0x1998_2280100C,
    0x1998_2280100D, 0x1998_2280100E, 0x1998_2280100F, 0x1998_22801010, 0x1998_22801011,
    0x1998_22801012, 0x1998_22801013, 0x1998_2280102C, 0x1998_2280102D, 0x1998_2280102E,
    0x1998_2280102F, 0x1998_22801030, 0x1998_22801031, 0x1998_22801032, 0x1998_22801033,
    0x1998_22801034, 0x1998_22801035, 0x1998_20801014, 0x1998_20801015, 0x1998_20801016,
    0x1998_20801017, 0x1998_20801018, 0x1998_20801019, 0x1998_2080101A, 0x1998_2080101B,
    0x1998_20801036, 0x1998_20801037, 0x1998_20801038, 0x1998_20801039, 0x1998_2080103A,
    0x1998_2080103B, 0x1998_2080103C, 0x1998_2080103D, 0x1998_2080103E, 0x1998_2080103F,
    0x1998_2080101C, 0x1998_2080101D, 0x1998_2080101E, 0x1998_2080101F, 0x1998_20801020,
    0x1998_20801021, 0x1998_20801022, 0x1998_20801023, 0x1998_20801040, 0x1998_20801041,
    0x1998_20801042, 0x1998_20801043, 0x1998_20801044, 0x1998_20801045, 0x1998_20801046,
    0x1998_20801047, 0x1998_20801048, 0x1998_20801049, 0x1998_2B801104, 0x1998_2B801105,
    0x1998_2B801106, 0x1998_2B801107, 0x1998_2B801108, 0x1998_2B801109, 0x1998_2B80110A,
    0x1998_2B80110B, 0x1998_2B80110C, 0x1998_2B80110D, 0x1998_2B80110E, 0x1998_2B80110F,
    0x1998_2B801110, 0x1998_2B801111, 0x1998_2B801112, 0x1998_2B801113, 0x1998_2B80112C,
    0x1998_2B80112D, 0x1998_2B80112E, 0x1998_2B80112F, 0x1998_2B801130, 0x1998_2B801131,
    0x1998_2B801132, 0x1998_2B801133, 0x1998_2B801134, 0x1998_2B801135, 0x1998_29801114,
    0x1998_29801115, 0x1998_29801116, 0x1998_29801117, 0x1998_29801118, 0x1998_29801119,
    0x1998_2980111A, 0x1998_2980111B, 0x1998_29801136, 0x1998_29801137, 0x1998_29801138,
    0x1998_29801139, 0x1998_2980113A, 0x1998_2980113B, 0x1998_2980113C, 0x1998_2980113D,
    0x1998_2980113E, 0x1998_2980113F, 0x1998_2980111C, 0x1998_2980111D, 0x1998_2980111E,
    0x1998_2980111F, 0x1998_29801120, 0x1998_29801121, 0x1998_29801122, 0x1998_29801123,
    0x1998_29801140, 0x1998_29801141, 0x1998_29801142, 0x1998_29801143, 0x1998_29801144,
    0x1998_29801145, 0x1998_29801146, 0x1998_29801147, 0x1998_29801148, 0x1998_29801149,
    0x1998_29801204, 0x1998_29801205, 0x1998_29801206, 0x1998_29801207, 0x1998_29801208,
    0x1998_29801209, 0x1998_2980120A, 0x1998_2980120B, 0x1998_2980120C, 0x1998_2980120D,
    0x1998_2980120E, 0x1998_2980120F, 0x1998_29801210, 0x1998_29801211, 0x1998_29801212,
    0x1998_29801213, 0x1998_2980122C, 0x1998_2980122D, 0x1998_2980122E, 0x1998_2980122F,
    0x1998_29801230, 0x1998_29801231, 0x1998_29801232, 0x1998_29801233, 0x1998_29801234,
    0x1998_29801235, 0x1998_27801214, 0x1998_27801215, 0x1998_27801216, 0x1998_27801217,
    0x1998_27801218, 0x1998_27801219, 0x1998_2780121A, 0x1998_2780121B, 0x1998_27801236,
    0x1998_27801237, 0x1998_27801238, 0x1998_27801239, 0x1998_2780123A, 0x1998_2780123B,
    0x1998_2780123C, 0x1998_2780123D, 0x1998_2780123E, 0x1998_2780123F, 0x1998_2780121C,
    0x1998_2780121D, 0x1998_2780121E, 0x1998_2780121F, 0x1998_27801220, 0x1998_27801221,
    0x1998_27801222, 0x1998_27801223, 0x1998_27801240, 0x1998_27801241, 0x1998_27801242,
    0x1998_27801243]

def fullInit15 : List Nat :=
  [0x1998_27801244, 0x1998_27801245, 0x1998_27801246, 0x1998_27801247, 0x1998_27801248,
    0x1998_27801249, 0x1998_29801304, 0x1998_29801305, 0x1998_29801306, 0x1998_29801307,
    0x1998_29801308, 0x1998_29801309, 0x1998_2980130A, 0x1998_2980130B, 0x1998_2980130C,
    0x1998_2980130D, 0x1998_2980130E, 0x1998_2980130F, 0x1998_29801310, 0x1998_29801311,
    0x1998_29801312, 0x1998_29801313, 0x1998_2980132C, 0x1998_2980132D, 0x1998_2980132E,
    0x1998_2980132F, 0x1998_29801330, 0x1998_29801331, 0x1998_29801332, 0x1998_29801333,
    0x1998_29801334, 0x1998_29801335, 0x1998_27801314, 0x1998_27801315, 0x1998_27801316,
    0x1998_27801317, 0x1998_27801318, 0x1998_27801319, 0x1998_2780131A, 0x1998_2780131B,
    0x1998_27801336, 0x1998_27801337, 0x1998_27801338, 0x1998_27801339, 0x1998_2780133A,
    0x1998_2780133B, 0x1998_2780133C, 0x1998_2780133D, 0x1998_2780133E, 0x1998_2780133F,
    0x1998_2780131C, 0x1998_2780131D, 0x1998_2780131E, 0x1998_2780131F, 0x1998_27801320,
    0x1998_27801321, 0x1998_27801322, 0x1998_27801323, 0x1998_27801340, 0x1998_27801341,
    0x1998_27801342, 0x1998_27801343, 0x1998_27801344, 0x1998_27801345, 0x1998_27801346,
    0x1998_27801347, 0x1998_27801348, 0x1998_27801349, 0x04D4_00000002, 0x0C50_0000001E,
    0x0E50_0000001E, 0x1850_0000001E, 0x1A50_0000001E, 0x0608_F400600E]

def kFullInitSequence : List PhyRegEntry :=
  (fullInit0 ++ fullInit1 ++ fullInit2 ++ fullInit3 ++ fullInit4 ++ fullInit5 ++ fullInit6 ++
    fullInit7 ++ fullInit8 ++ fullInit9 ++ fullInit10 ++ fullInit11 ++ fullInit12 ++ fullInit13 ++
    fullInit14 ++ fullInit15).map fun word => ⟨word / 0x1_0000_0000, word % 0x1_0000_0000⟩

end PhyConfig
end Rtl8814au
