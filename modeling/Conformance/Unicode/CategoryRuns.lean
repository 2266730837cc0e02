namespace Conformance.Unicode

/-- Each run is its length in hexadecimal and a letter. The letters `g` to `z` and `G` to `P` stand for
the categories in the order of `Category.all`. -/
def categoryRuns : String :=
  String.join [
    "20L1I3x1z3x1t1u1x1y1x1s2xao2x3y2x1ag1t1x1u1G1r1G1ah1t1y1u1y21L1I1x4z1H1x1G1H1k1v1y1M1H1G1H1y2q1G",
    "1h2x1G1q1k1w3q1x17g1y7g18h1y8h1g1h1g1h1g1h1g1h1g1h1g1h1g1h1g1h1g1h1g1h1g1h1g1h1g1h1g1h1g1h1g1h1g",
    "1h1g1h1g1h1g1h1g1h1g1h1g1h1g1h1g1h1g1h1g1h1g2h1g1h1g1h1g1h1g1h1g1h1g1h1g1h1g2h1g1h1g1h1g1h1g1h1g",
    "1h1g1h1g1h1g1h1g1h1g1h1g1h1g1h1g1h1g1h1g1h1g1h1g1h1g1h1g1h1g1h1g1h1g1h1g1h2g1h1g1h1g3h2g1h1g1h2g",
    "1h3g2h4g1h2g1h3g3h2g1h2g1h1g1h1g1h2g1h1g2h1g1h2g1h3g1h1g1h2g2h1k1g3h4k1g1i1h1g1i1h1g1i1h1g1h1g1h",
    "1g1h1g1h1g1h1g1h1g1h1g2h1g1h1g1h1g1h1g1h1g1h1g1h1g1h1g1h1g2h1g1i1h1g1h3g1h1g1h1g1h1g1h1g1h1g1h1g",
    "1h1g1h1g1h1g1h1g1h1g1h1g1h1g1h1g1h1g1h1g1h1g1h1g1h1g1h1g1h1g1h1g1h1g1h1g1h1g1h1g1h1g1h1g1h1g7h2g",
    "1h2g2h1g1h4g1h1g1h1g1h1g1h1g45h2k1ah12j4GcjeG5j7G1j1G1j11G70l1g1h1g1h1j1G1g1h2P1j3h1x1g4P2G1g1x3",
    "g1P1g1P2g1h11g1P9g23h1g2h3g3h1g1h1g1h1g1h1g1h1g1h1g1h1g1h1g1h1g1h1g1h1g1h1g5h1g1h1y1g1h2g2h33g30",
    "h1g1h1g1h1g1h1g1h1g1h1g1h1g1h1g1h1g1h1g1h1g1h1g1h1g1h1g1h1g1h1g1h1g1h1H5l2n1g1h1g1h1g1h1g1h1g1h1",
    "g1h1g1h1g1h1g1h1g1h1g1h1g1h1g1h1g1h1g1h1g1h1g1h1g1h1g1h1g1h1g1h1g1h1g1h1g1h1g1h1g1h1g1h2g1h1g1h1",
    "g1h1g1h1g1h1g1h1g2h1g1h1g1h1g1h1g1h1g1h1g1h1g1h1g1h1g1h1g1h1g1h1g1h1g1h1g1h1g1h1g1h1g1h1g1h1g1h1",
    "g1h1g1h1g1h1g1h1g1h1g1h1g1h1g1h1g1h1g1h1g1h1g1h1g1h1g1h1g1h1g1h1g1h1g1h1g1h1g1h1g1h1g1h1g1h1g1h1",
    "g1h1g1h1g1h1g1h1g1h1P26g2P1j6x29h1x1s2P2H1z1P2dl1s1l1x2l1x2l1x1l8P1bk4P4k2xbP6M3y2x1z2x2Hbl1x1M3",
    "x20k1jak15lao4x2k1l63k1x1k7l1M1H6l2j2l1H4l2kao3k2H1kex1P1M1k1l1ek1bl2P59kbl1kePao21k9l2j1H3x1j2P",
    "1l2z16k4l1j9l1j3l1j5l2Pfx1P19k3l2P1x1Pbk5P18k1G7k2M5P9l29k1j18l1M20l1m36k1l1m1l1k3m8l4m1l2m1k7la",
    "k2l2xao1x1jfk1l2m1P8k2P2k2P16k1P7k1P1k3P4k2P1l1k3m4l2P2m2P2m1l1k8P1m4P2k1P3k2l2Pao2k2z6q1H1z1k1x",
    "1l2P2l1m1P6k4P2k2P16k1P7k1P2k1P2k1P2k2P1l1P3m2l4P2l2P3l3P1l7P4k1P1k7Pao2l3k1l1xaP2l1m1P9k1P3k1P1",
    "6k1P7k1P2k1P5k2P1l1k3m5l1P2l1m1P2m1l2P1kfP2k2l2Pao1x1z7P1k6l1P1l2m1P8k2P2k2P16k1P7k1P2k1P5k2P1l1",
    "k1m1l1m4l2P2m2P2m1l7P2l1m4P2k1P3k2l2Pao1H1k6qaP1l1k1P6k3P3k1P4k3P2k1P1k1P2k3P2k3P3k3Pck4P2m1l2m3",
    "P3m1P3m1l2P1k6P1mePao3q6H1z1H5P1l3m1l8k1P3k1P17k1P10k2P1l1k3l4m1P3l1P4l7P2l1P3k1P2k2P2k2l2Pao7P1",
    "x7q1H1k1l2m1x8k1P3k1P17k1Pak1P5k2P1l1k1m1l5m1P1l2m1P2m2l7P2m5P3k1P2k2l2Pao1P2k1mcP2l2m9k1P3k1P29",
    "k2l1k3m4l1P3m1P3m1l1k1H4P3k1m7q3k2l2Pao9q1H6k1P1l2m1P12k3P18k1P9k1P1k2P7k3P1l4P3m3l1P1l1P8m6Pao2",
    "P2m1xcP30k1l2k7l4P1z6k1j8l1xao2x25P2k1P1k1P5k1P18k1P1k1Pak1l2k9l1k2P5k1P1j1P7l1Pao2P4k20P1k3Hfx1",
    "H1x3H2l6Haoaq1H1l1H1l1H1l1t1u1t1u2m8k1P24k4Pel1m5l1x2l5kbl1P24l1P8H1l6H1P2H5x4H2x25P2bk2m4l1m6l1",
    "m2l2m2l1kao6x6k2m2l4k3l1k3m2k7m3k4ldk1l2m2l6m1l1k1mao3m1l2H26g1P1g5P1g2P2bh1x1j3h149k1P4k2P7k1P1",
    "k1P4k2P29k1P4k2P21k1P4k2P7k1P1k1P4k2Pfk1P39k1P4k2P43k2P3l9x14q3P10kaH6P56g2P6h2P1s26ck1H1x11k1I1",
    "ak1t1u3P4bk3x3p8k7P12k3l1m9P13k2l1m2x9P12k2lcPdk1P3k1P2lcP34k2l1m7l8m1l2mbl3x1j3x1z1k1l2Pao6Paq6",
    "P6x1s4x3l1M1lao6P23k1j35k7P5k2l22k1l1k5P46kaP1fk1P3l4m2l3m4P2m1l6m3l4P1H3P2xao1ek2P5kbP2ck4P1ak6",
    "Pao1q3P22H17k2l2m1l2P2x35k1m1l1m7l1P1l1m1l2m8l6mal2P1lao6Pao6P7x1j6x2Pel1n1fl2Pcl14P4l1m2fk1l1m5",
    "l1m1l5m1l2m8k1P2xao7xaH9l9H3x2l1m1ek1m4l2m2l1m3l2kao2ck1l1m2l3m1l1m3l2m8P4x24k8m8l2m2l3P5xao3P3k",
    "ao1ek6j2x9h1g1h5P2bg2P3g8x8P3l1xdl1m7l4k1l6k1l2k1m2l1k5P2ch3fjdh1j22h25j40l1g1h1g1h1g1h1g1h1g1h1",
    "g1h1g1h1g1h1g1h1g1h1g1h1g1h1g1h1g1h1g1h1g1h1g1h1g1h1g1h1g1h1g1h1g1h1g1h1g1h1g1h1g1h1g1h1g1h1g1h1",
    "g1h1g1h1g1h1g1h1g1h1g1h1g1h1g1h1g1h1g1h1g1h1g1h1g1h1g1h1g1h1g1h1g1h1g1h1g1h1g1h1g1h1g1h1g1h1g1h1",
    "g1h1g1h1g1h1g1h1g1h1g1h1g1h1g1h1g1h1g1h1g1h1g1h1g1h1g1h1g1h1g1h1g1h1g1h1g1h1g1h1g1h1g9h1g1h1g1h1",
    "g1h1g1h1g1h1g1h1g1h1g1h1g1h1g1h1g1h1g1h1g1h1g1h1g1h1g1h1g1h1g1h1g1h1g1h1g1h1g1h1g1h1g1h1g1h1g1h1",
    "g1h1g1h1g1h1g1h1g1h1g1h1g1h1g1h1g1h1g1h1g1h1g1h1g1h1g1h1g1h1g1h1g1h1g1h1g1h1g1h1g1h1g1h1g9h8g6h2",
    "P6g2P8h8g8h8g6h2P6g2P8h1P1g1P1g1P1g1P1g8h8geh2P8h8i8h8i8h8i5h1P2h4g1i1G1h3G3h1P2h4g1i3G4h2P2h4g1",
    "P3G8h5g3G2P3h1P2h4g1i2G1PbI5M6s2x1v1w1t2v1w1t1v8x1J1K5M1I9x1v1w4x2r3x1y1t1ubx1y1x1rax1I5M1PaM1q1",
    "j2P6q3y1t1u1jaq3y1t1u1Pdj3P22zePdl4n1l3nclfP2H1g4H1g2H1h3g2h3g1h1H1g2H1y5g6H1g1H1g1H1g1H4g1H1h4g",
    "1h4k1h2H2h2g5y1g4h1H1y2H1h1H10q23p1g1h4p1q2H4P5y5H2y4H1y2H1y2H1y7H1y1fH2y2H1y1H1y1fH10cy8H1t1u1t",
    "1u14H2y7H1t1u51H1y1eH19y28H6y48H16PbH15P3cq4eH16qb7H1y9H1y36H8y6fH1yf8H1t1u1t1u1t1u1t1u1t1u1t1u1",
    "t1u1eq2cH5y1t1u1fy1t1u1t1u1t1u1t1u1t1u10y100H83y1t1u1t1u1t1u1t1u1t1u1t1u1t1u1t1u1t1u1t1u1t1u3fy1",
    "t1u1t1u20y1t1u102y30H15y2H6y27H2P8aH30g30h1g1h3g2h1g1h1g1h1g1h4g1h1g2h1g6h2j3g1h1g1h1g1h1g1h1g1h",
    "1g1h1g1h1g1h1g1h1g1h1g1h1g1h1g1h1g1h1g1h1g1h1g1h1g1h1g1h1g1h1g1h1g1h1g1h1g1h1g1h1g1h1g1h1g1h1g1h",
    "1g1h1g1h1g1h1g1h1g1h1g1h1g1h1g1h1g1h1g1h1g1h1g1h1g1h1g1h1g1h1g1h1g1h1g1h1g1h1g1h1g2h6H1g1h1g1h3l",
    "1g1h5P4x1q2x26h1P1h5P1h2P38k7P1j1xeP1l17k9P7k1P7k1P7k1P7k1P7k1P7k1P7k1P7k1P20l2x1v1w1v1w3x1v1w1x",
    "1v1w9x1s2x1s1x1v1w2x1v1w1t1u1t1u1t1u1t1u5x1jax2s4x1s1x1tdx2H3x1t1u1t1u1t1u1t1u1s22P1aH1P59HcPd6H",
    "1aP10H1I3x1H1j1k1p1t1u1t1u1t1u1t1u1t1u2H1t1u1t1u1t1u1t1u1s1t2u1H9p4l2m1s5j2H3p1j1k1x2H1P56k2P2l2",
    "G2j1k1s5ak1x3j1k5P2bk1P5ek1P2H4qaH20k26H9P1H10k1fH1Paq1eH8q1Hfq20Haq27Hfq140H19c0k40H5215k1j477k",
    "3P37H9P28k6j2x10ck1j3x10kao2k14P1g1h1g1h1g1h1g1h1g1h1g1h1g1h1g1h1g1h1g1h1g1h1g1h1g1h1g1h1g1h1g1h",
    "1g1h1g1h1g1h1g1h1g1h1g1h1g1h1k1l3n1xal1x1j1g1h1g1h1g1h1g1h1g1h1g1h1g1h1g1h1g1h1g1h1g1h1g1h1g1h1g",
    "1h2j2l46kap2l6x8P17G9j2G1g1h1g1h1g1h1g1h1g1h1g1h1g3h1g1h1g1h1g1h1g1h1g1h1g1h1g1h1g1h1g1h1g1h1g1h",
    "1g1h1g1h1g1h1g1h1g1h1g1h1g1h1g1h1g1h1g1h1g1h1g1h1g1h1g1h1g1h1g1h1g1h1g1h1g1h1g1h1j8h1g1h1g1h2g1h",
    "1g1h1g1h1g1h1g1h1j2G1g1h1g1h1k1g1h1g3h1g1h1g1h1g1h1g1h1g1h1g1h1g1h1g1h1g1h1g1h5g1h5g1h1g1h1g1h1g",
    "1h1g1h1g1h1g1h1g1h4g1h1g1h2g1h1g1h1g1h1g1h1g1h1g1h1g1h1g1h1g14P4j1g1h1k2j1h7k1l3k1l4k1l17k2m2l1m",
    "4H1l3P6q2H1z1H6P34k4x8P2m32k10m2l8P2xao6P12l6k3x1k1x2k1lao1ck8l2x17kbl2mbP1x1dk3P3l1m2fk1l2m4l2m",
    "2l3mdx1P1jao4P2x5k1l1j9kao5k1P29k6l2m2l2m2l9P3k1l8k1l1m2Pao2P4x10k1j6k3H1k1m1l1m32k1l1k3l2k2l5k2",
    "l1k1l1k18P2k1j2xbk1m2l2m2x1k2j1m1laP6k2P6k2P6k9P7k1P7k1P2bh1G4j9h1j2G4P50h23k2m1l2m1l2m1x1m1l2Pa",
    "o6P2ba4kcP17k4P31k4P800N1900O16ek2P6ak26P7hcP5h5P1k1lak1ydk1P5k1P1k1P2k1P2k1P6ck11G10H16bk1u1t10",
    "H40k2H36k8H20Pck1z3H10l7x1t1u1x6P10l1x2s2r1t1u1t1u1t1u1t1u1t1u1t1u1t1u1t1u2x1t1u4x3r3x1P4x1s1t1u",
    "1t1u1t1u3x1y1s3y1P1x1z2x4P5k1P87k2P1M1P3x1z3x1t1u1x1y1x1s2xao2x3y2x1ag1t1x1u1G1r1G1ah1t1y1u1y1t1",
    "u1x1t1u2xak1j2dk2j1fk3P6k2P6k2P6k2P3k3P2z1y1G1H2z1P1H4y2HaP3M2H2Pck1P1ak1P13k1P2k1Pfk2Pek22P7bk5",
    "P3x4P2dq3P9H35p4q11H2q3H1PdH3P1H2fP2dH1l82P1dk3P31kfP1l1bq4P20k4q9P14k1p8k1p5P26k5l5P1ek1P1x24k4",
    "P8k1x5p2aP28g28h4ek2Pao6P24g4P24h4P28k8P34kbP1xbg1Pfg1P7g1P2g1Pbh1Pfh1P7h1P2h3P34kcP137k9P16kaP8",
    "k18P6j1P2aj1P9j45P6k2P1k1P2ck1P2k3P1k2P17k1P1x8q17k2H7q1fk8P9q30P13k1P2k5P5q16k6q3P1x1ak5P1x1ak2",
    "6P38k4P2q2k10q2P2eq1k3l1P2l5P4l4k1P3k1P1dk2P3l4P1l9q7P9x7P1dk2q1x1dk3q20P8k1H1ck2l4P5q7x9P36k3P7",
    "x16k2P8q13k5P8q12k7P4xcP7q50P49k37P33gdP33h7P6q24k4l8Pao6Pao4k1j1k16g3P5l1s1j16h8P2yd0P1fq1P2ak1",
    "P2l1s2P2k10P3k1j2k8P1x8H21P6l1dkaq1k8P16kbl4q5x16P12k4l4x26P15k7q14P17k9P1m1l1m35kfl7x4P14qao1l2",
    "k2l1k9P3l1m2dk3m4l2m2l2x1M4x1laP1M2P19k7Pao6P3l24k5l1m8l1Pao4x1k2m1k8P23k1l2x1k9P2l1m30k3m9l2m4k",
    "4x4l1x1m1lao1k1x1k3x1P14qbP12k1P19k3m3l2m1l1m2l6x1l2k1l3eP7k1P1k1P4k1Pfk1Pak1x6P2fk1l3m8l5Pao6P2",
    "l2m1P8k2P2k2P16k1P7k1P2k1P5k1P2l1k2m1l4m2P2m2P3m2P1k6P1m5P5k2m2P7l3P5lbPak1P1k2P1k1P26k1P1k3m6l1",
    "P1m2P1m1P4m1P2m1l1m1l1k1l1k2x1P2x8P2l1dP35k3m8l2m3l1m1l4k5xao2x1P1x1l3k1eP30k3m6l1m1l4m2l1m2l2k1",
    "x1k8Paoa6P2fk3m4l2P4m2l1m2l17x4k2l22P30k3m8l2m1l1m2l3x1kbPao6Pdx13P2bk1l1m1l2m6l1m1l1k1x6Pao6P14",
    "o1cP1bk2P1l1m1l2m4l1m5l4Pao2q3x1H7kb9P2ck3m9l1m2l1x64P20g20hao9qcP8k2P1k2P8k1P2k1P18k6m1P2m2P2l1",
    "m1l1k1m1k1m1l3x9Pao46P8k2P27k3m4l2P2l4m1l1k1x1k1m1bP1kal28k6l1m1k4l8x1l8P1k6l2m3l2ekdl1m2l3x1k5x",
    "dP49k7Pax56P1l1m3l1m1l1m58P21k1xePao6P9k1P25k1m7l1P6l1m1l1k5xaPao13q3P2x1ek2P16l1P1m7l1m2l1m2l49",
    "P7k1P2k1P26k6l3P1l1P2l1P7l1k1l8Pao6P6k1P2k1P20k5m1P2l1P2m1l1m1l1k7Pao6P29k1j2k4Paof6P13k2l2m2x7P",
    "2l1k1mdk1P22k2m5l3P2m1l1m1ldxao1l55P1kfP15q8H4z11HdP1x39ak66P6fp1P5xbPc4ka4cP61k2xdP430k10M1l6kf",
    "laPf9bk5P247k1ab9P1ekcl3m3lao6c6P239k7P1fk1Pao4P2x4fk1Pao6P1ek2P5l1xaP30k7l5x4H4j1x1HaPao1P7q1P1",
    "5k5P13k1b0P3j28k2j3xaoc6P20g20h17q4x5P19g2P19h2cP4bk4P1l1k37m7P4ldj40P2j1x1j1lbP2m2j3p9P1cd6k29P",
    "20k61P73k21fdP4j1P7j1P2j1P123kfP1k1dP3k2P1keP4k8P18ck904P6bk5Pdk3P9k7Pak2P1H2l1x4Mf5cPf0Hao3H3P1",
    "b4H6P17HfP10H1yfP2el2P17l9P74H3cPf6HaP27H2P3cH2m3l3H6m8M8l2H7l1eH4l3dH15P42H3l1H7aP14qcP14qcP57H",
    "9P19q87P1ag1ah1ag7h1P12h1ag1ah1g1P2g2P1g2P2g2P4g1P8g4h1P1h1P7h1Pbh1ag1ah2g1P4g2P8g1P7g1P1ah2g1P4",
    "g1P5g1P1g3P7g1P1ah1ag1ah1ag1ah1ag1ah1ag1ah1ag1ah1ag1ch2P19g1y19h1y6h19g1y19h1y6h19g1y19h1y6h19g1",
    "y19h1y6h19g1y19h1y6h1g1h2P32o200H37l4H32l8H1leH1l2H5xfP5l1Pfl450Pah1k14h6P6hd5P7l1P11l2P7l1P2l1P",
    "5l5P3ej21P1l70P2dk3P7l7j2Pao4P1k1H140P1ek1l11P2ck4lao5P1z1d0P1bk1j4laod6P1ek2l1kao4P1xc0P1fk1P3k",
    "1l2k1l7k2l5k1l8P1k1je0P7k1P4k1P2k1Pfk1Pc5k2P9q7l29P22g22h7l1j4Pao4P2x311P3bq1H3q1z4q4cP2dq1Hfqc2",
    "P4k1P1bk1P2k1P1k2P1k1Pak1P4k1P1k1P1k6P1k4P1k1P1k1P1k1P3k1P2k1P1k2P1k1P1k1P1k1P1k1P1k1P2k1P1k2P4k",
    "1P7k1P4k1P4k1P1k1Pak1P11k5P3k1P5k1P11k34P2y10eP2cH4P64HcPfH2PfH1PfH1P25HaPdqa1H38P1dHdP2cH4P9H7P",
    "2HeP6H9aPfbH5G2d9H3P11H3PdH3PdaH6PcH4P1HfPcH4P38H8PaH6P28H8P1eH2PcH4P2HeP9y27P158H8PeH2PdH3PbH3P",
    "39H1P1H4P10H2PcH4PaH7P93H1P5cHao1H405Pa6e0k20P111ek2P168ek2P1d31kfP26ek9a2P21ek5e2P134bk5P212aka",
    "cb87P1M1eP60M80Pf0lfe10PfffeO2PfffeO2P"]

end Conformance.Unicode
