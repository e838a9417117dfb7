/-!
# PhyConfig.GainTables

The AGC gain curves that a band switch loads. Those of the four paths in 5 GHz are the same.
-/

namespace Rtl8814au
namespace PhyConfig

/-- An entry of a register table. -/
structure PhyRegEntry where
  address : Nat
  value : Nat

def gainCurve2G : List Nat :=
  [0xFF000003, 0xFE000003, 0xFD020003, 0xFC040003, 0xFB060003, 0xFA080003, 0xF90A0003, 0xF80C0003,
    0xF70E0003, 0xF6100003, 0xF5120003, 0xF4140003, 0xF3160003, 0xF2180003, 0xF11A0003,
    0xF01C0003, 0xEF1E0003, 0xEE200003, 0xED220003, 0xCF240003, 0xCE260003, 0xCD280003,
    0xCC2A0003, 0xCB2C0003, 0xCA2E0003, 0xC9300003, 0xC8320003, 0xC7340003, 0xC6360003,
    0xC5380003, 0xC43A0003, 0xA63C0003, 0xA53E0003, 0xA4400003, 0xA3420003, 0xA2440003,
    0xA1460003, 0x86480003, 0x854A0003, 0x844C0003, 0x834E0003, 0x66500003, 0x65520003,
    0x64540003, 0x63560003, 0x62580003, 0x615A0003, 0x435C0003, 0x425E0003, 0x41600003,
    0x27620003, 0x26640003, 0x25660003, 0x24680003, 0x236A0003, 0x226C0003, 0x216E0003,
    0x21700003, 0x21720003, 0x21740003, 0x21760003, 0x21780003, 0x217A0003, 0x217C0003,
    0x217E0003, 0xF9000103, 0xF8020103, 0xF7040103, 0xF6060103, 0xF5080103, 0xF40A0103,
    0xF30C0103, 0xF20E0103, 0xF1100103, 0xF0120103, 0xEF140103, 0xEE160103, 0xED180103,
    0xEC1A0103, 0xEB1C0103, 0xEA1E0103, 0xE9200103, 0xE8220103, 0xE7240103, 0xE6260103,
    0xE5280103, 0xE42A0103, 0xE32C0103, 0xC32E0103, 0xC2300103, 0xC1320103, 0xA5340103,
    0xA4360103, 0xA3380103, 0xA23A0103, 0xA13C0103, 0x843E0103, 0x83400103, 0x82420103,
    0x81440103, 0x64460103, 0x63480103, 0x624A0103, 0x614C0103, 0x444E0103, 0x43500103,
    0x42520103, 0x41540103, 0x25560103, 0x24580103, 0x235A0103, 0x065C0103, 0x055E0103,
    0x04600103, 0x03620103, 0x02640103, 0x01660103, 0x01680103, 0x016A0103, 0x016C0103,
    0x016E0103, 0x01700103, 0x01720103, 0x01740103, 0x01760103, 0x01780103, 0x017A0103,
    0x017C0103, 0x017E0103, 0xFA000203, 0xF9020203, 0xF8040203, 0xF7060203, 0xF6080203,
    0xF50A0203, 0xF40C0203, 0xF30E0203, 0xF2100203, 0xF1120203, 0xF0140203, 0xEF160203,
    0xEE180203, 0xED1A0203, 0xEC1C0203, 0xEB1E0203, 0xEA200203, 0xE9220203, 0xE8240203,
    0xE7260203, 0xE6280203, 0xE52A0203, 0xE42C0203, 0xE32E0203, 0xE2300203, 0xE1320203,
    0xA5340203, 0xA4360203, 0xA3380203, 0xA23A0203, 0xA13C0203, 0x843E0203, 0x83400203,
    0x82420203, 0x81440203, 0x63460203, 0x62480203, 0x614A0203, 0x464C0203, 0x454E0203,
    0x44500203, 0x43520203, 0x42540203, 0x41560203, 0x24580203, 0x235A0203, 0x065C0203,
    0x055E0203, 0x04600203, 0x03620203, 0x02640203, 0x01660203, 0x01680203, 0x016A0203,
    0x016C0203, 0x016E0203, 0x01700203, 0x01720203, 0x01740203, 0x01760203, 0x01780203,
    0x017A0203, 0x017C0203, 0x017E0203, 0xF8000303, 0xF7020303, 0xF6040303, 0xF5060303,
    0xF4080303, 0xF30A0303, 0xF20C0303, 0xF10E0303, 0xF0100303, 0xEF120303, 0xEE140303,
    0xED160303, 0xEC180303, 0xEB1A0303, 0xEA1C0303, 0xE91E0303, 0xE8200303, 0xE7220303,
    0xE6240303, 0xE5260303, 0xE4280303, 0xE32A0303, 0xE22C0303, 0xE12E0303, 0xA6300303,
    0xA5320303, 0xA4340303, 0xA3360303, 0xA2380303, 0xA13A0303, 0x843C0303, 0x833E0303,
    0x82400303, 0x81420303, 0x64440303, 0x63460303, 0x62480303, 0x614A0303, 0x454C0303,
    0x444E0303, 0x43500303, 0x42520303, 0x41540303, 0x24560303, 0x23580303, 0x065A0303,
    0x055C0303, 0x045E0303, 0x03600303, 0x02620303, 0x01640303, 0x01660303, 0x01680303,
    0x016A0303, 0x016C0303, 0x016E0303, 0x01700303, 0x01720303, 0x01740303, 0x01760303,
    0x01780303, 0x017A0303, 0x017C0303, 0x017E0303]

def gainCurve5G : List Nat :=
  [0xFE000101, 0xFD010101, 0xFC020101, 0xFB030101, 0xFA040101, 0xF9050101, 0xF8060101, 0xF7070101,
    0xF6080101, 0xF5090101, 0xF40A0101, 0xF30B0101, 0xF20C0101, 0xF10D0101, 0xF00E0101,
    0xEF0F0101, 0xEE100101, 0xED110101, 0xEC120101, 0xEB130101, 0xEA140101, 0xE9150101,
    0xE8160101, 0xE7170101, 0xE6180101, 0xE5190101, 0xE41A0101, 0xE31B0101, 0xA81C0101,
    0xA71D0101, 0xA61E0101, 0xA51F0101, 0xA4200101, 0xA3210101, 0xA2220101, 0xA1230101,
    0x68240101, 0x67250101, 0x66260101, 0x65270101, 0x64280101, 0x63290101, 0x622A0101,
    0x612B0101, 0x472C0101, 0x462D0101, 0x452E0101, 0x442F0101, 0x43300101, 0x28310101,
    0x27320101, 0x26330101, 0x25340101, 0x24350101, 0x09360101, 0x08370101, 0x07380101,
    0x06390101, 0x053A0101, 0x043B0101, 0x033C0101, 0x023D0101, 0x013E0101, 0x013F0101]

def kAGCTable2G : List PhyRegEntry := gainCurve2G.map fun value => ⟨0x81C, value⟩

def kAGCTable5G : List PhyRegEntry :=
  [0xC78, 0xE78, 0x1878, 0x1A78].flatMap fun address => gainCurve5G.map fun value => ⟨address, value⟩

end PhyConfig
end Rtl8814au
