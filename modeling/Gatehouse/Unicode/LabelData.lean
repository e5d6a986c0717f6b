/-!
# Data of the rules for labels

The rows hold hexadecimal numbers with dots between. `Label` reads them.
-/

namespace Gatehouse

namespace Unicode

/-- Ranges of marks: the first one, the last one, and one for marks that take up no space. -/
def markRows : List String :=
  ["300.33f.1 342.342.1 346.34e.1 350.36f.1 483.489.1 591.5bd.1 5bf.5bf.1 5c1.5c2.1 5c4.5c5.1",
    "5c7.5c7.1 610.61a.1 64b.65f.1 670.670.1 6d6.6dc.1 6df.6e4.1 6e7.6e8.1 6ea.6ed.1 711.711.1",
    "730.74a.1 7a6.7b0.1 7eb.7f3.1 7fd.7fd.1 816.819.1 81b.823.1 825.827.1 829.82d.1 859.85b.1",
    "898.89f.1 8ca.8e1.1 8e3.902.1 903.903.0 93a.93a.1 93b.93b.0 93c.93c.1 93e.940.0 941.948.1",
    "949.94c.0 94d.94d.1 94e.94f.0 951.957.1 962.963.1 981.981.1 982.983.0 9bc.9bc.1 9be.9c0.0",
    "9c1.9c4.1 9c7.9c8.0 9cb.9cc.0 9cd.9cd.1 9d7.9d7.0 9e2.9e3.1 9fe.9fe.1 a01.a02.1 a03.a03.0",
    "a3c.a3c.1 a3e.a40.0 a41.a42.1 a47.a48.1 a4b.a4d.1 a51.a51.1 a70.a71.1 a75.a75.1 a81.a82.1",
    "a83.a83.0 abc.abc.1 abe.ac0.0 ac1.ac5.1 ac7.ac8.1 ac9.ac9.0 acb.acc.0 acd.acd.1 ae2.ae3.1",
    "afa.aff.1 b01.b01.1 b02.b03.0 b3c.b3c.1 b3e.b3e.0 b3f.b3f.1 b40.b40.0 b41.b44.1 b47.b48.0",
    "b4b.b4c.0 b4d.b4d.1 b55.b56.1 b57.b57.0 b62.b63.1 b82.b82.1 bbe.bbf.0 bc0.bc0.1 bc1.bc2.0",
    "bc6.bc8.0 bca.bcc.0 bcd.bcd.1 bd7.bd7.0 c00.c00.1 c01.c03.0 c04.c04.1 c3c.c3c.1 c3e.c40.1",
    "c41.c44.0 c46.c48.1 c4a.c4d.1 c55.c56.1 c62.c63.1 c81.c81.1 c82.c83.0 cbc.cbc.1 cbe.cbe.0",
    "cbf.cbf.1 cc0.cc4.0 cc6.cc6.1 cc7.cc8.0 cca.ccb.0 ccc.ccd.1 cd5.cd6.0 ce2.ce3.1 cf3.cf3.0",
    "d00.d01.1 d02.d03.0 d3b.d3c.1 d3e.d40.0 d41.d44.1 d46.d48.0 d4a.d4c.0 d4d.d4d.1 d57.d57.0",
    "d62.d63.1 d81.d81.1 d82.d83.0 dca.dca.1 dcf.dd1.0 dd2.dd4.1 dd6.dd6.1 dd8.ddf.0 df2.df3.0",
    "e31.e31.1 e34.e3a.1 e47.e4e.1 eb1.eb1.1 eb4.ebc.1 ec8.ece.1 f18.f19.1 f35.f35.1 f37.f37.1",
    "f39.f39.1 f3e.f3f.0 f71.f72.1 f74.f74.1 f7a.f7e.1 f7f.f7f.0 f80.f80.1 f82.f84.1 f86.f87.1",
    "f8d.f92.1 f94.f97.1 f99.f9c.1 f9e.fa1.1 fa3.fa6.1 fa8.fab.1 fad.fb8.1 fba.fbc.1 fc6.fc6.1",
    "102b.102c.0 102d.1030.1 1031.1031.0 1032.1037.1 1038.1038.0 1039.103a.1 103b.103c.0",
    "103d.103e.1 1056.1057.0 1058.1059.1 105e.1060.1 1062.1064.0 1067.106d.0 1071.1074.1",
    "1082.1082.1 1083.1084.0 1085.1086.1 1087.108c.0 108d.108d.1 108f.108f.0 109a.109c.0",
    "109d.109d.1 135d.135f.1 1712.1714.1 1715.1715.0 1732.1733.1 1734.1734.0 1752.1753.1",
    "1772.1773.1 17b6.17b6.0 17b7.17bd.1 17be.17c5.0 17c6.17c6.1 17c7.17c8.0 17c9.17d3.1",
    "17dd.17dd.1 1885.1886.1 18a9.18a9.1 1920.1922.1 1923.1926.0 1927.1928.1 1929.192b.0",
    "1930.1931.0 1932.1932.1 1933.1938.0 1939.193b.1 1a17.1a18.1 1a19.1a1a.0 1a1b.1a1b.1",
    "1a55.1a55.0 1a56.1a56.1 1a57.1a57.0 1a58.1a5e.1 1a60.1a60.1 1a61.1a61.0 1a62.1a62.1",
    "1a63.1a64.0 1a65.1a6c.1 1a6d.1a72.0 1a73.1a7c.1 1a7f.1a7f.1 1ab0.1ace.1 1b00.1b03.1",
    "1b04.1b04.0 1b34.1b34.1 1b35.1b35.0 1b36.1b3a.1 1b3b.1b3b.0 1b3c.1b3c.1 1b3d.1b41.0",
    "1b42.1b42.1 1b43.1b44.0 1b6b.1b73.1 1b80.1b81.1 1b82.1b82.0 1ba1.1ba1.0 1ba2.1ba5.1",
    "1ba6.1ba7.0 1ba8.1ba9.1 1baa.1baa.0 1bab.1bad.1 1be6.1be6.1 1be7.1be7.0 1be8.1be9.1",
    "1bea.1bec.0 1bed.1bed.1 1bee.1bee.0 1bef.1bf1.1 1bf2.1bf3.0 1c24.1c2b.0 1c2c.1c33.1",
    "1c34.1c35.0 1c36.1c37.1 1cd0.1cd2.1 1cd4.1ce0.1 1ce1.1ce1.0 1ce2.1ce8.1 1ced.1ced.1",
    "1cf4.1cf4.1 1cf7.1cf7.0 1cf8.1cf9.1 1dc0.1dff.1 20d0.20f0.1 2cef.2cf1.1 2d7f.2d7f.1",
    "2de0.2dff.1 302a.302d.1 302e.302f.0 3099.309a.1 a66f.a672.1 a674.a67d.1 a69e.a69f.1",
    "a6f0.a6f1.1 a802.a802.1 a806.a806.1 a80b.a80b.1 a823.a824.0 a825.a826.1 a827.a827.0",
    "a82c.a82c.1 a880.a881.0 a8b4.a8c3.0 a8c4.a8c5.1 a8e0.a8f1.1 a8ff.a8ff.1 a926.a92d.1",
    "a947.a951.1 a952.a953.0 a980.a982.1 a983.a983.0 a9b3.a9b3.1 a9b4.a9b5.0 a9b6.a9b9.1",
    "a9ba.a9bb.0 a9bc.a9bd.1 a9be.a9c0.0 a9e5.a9e5.1 aa29.aa2e.1 aa2f.aa30.0 aa31.aa32.1",
    "aa33.aa34.0 aa35.aa36.1 aa43.aa43.1 aa4c.aa4c.1 aa4d.aa4d.0 aa7b.aa7b.0 aa7c.aa7c.1",
    "aa7d.aa7d.0 aab0.aab0.1 aab2.aab4.1 aab7.aab8.1 aabe.aabf.1 aac1.aac1.1 aaeb.aaeb.0",
    "aaec.aaed.1 aaee.aaef.0 aaf5.aaf5.0 aaf6.aaf6.1 abe3.abe4.0 abe5.abe5.1 abe6.abe7.0",
    "abe8.abe8.1 abe9.abea.0 abec.abec.0 abed.abed.1 fb1e.fb1e.1 fe20.fe2f.1 101fd.101fd.1",
    "102e0.102e0.1 10376.1037a.1 10a01.10a03.1 10a05.10a06.1 10a0c.10a0f.1 10a38.10a3a.1",
    "10a3f.10a3f.1 10ae5.10ae6.1 10d24.10d27.1 10eab.10eac.1 10efd.10eff.1 10f46.10f50.1",
    "10f82.10f85.1 11000.11000.0 11001.11001.1 11002.11002.0 11038.11046.1 11070.11070.1",
    "11073.11074.1 1107f.11081.1 11082.11082.0 110b0.110b2.0 110b3.110b6.1 110b7.110b8.0",
    "110b9.110ba.1 110c2.110c2.1 11100.11102.1 11127.1112b.1 1112c.1112c.0 1112d.11134.1",
    "11145.11146.0 11173.11173.1 11180.11181.1 11182.11182.0 111b3.111b5.0 111b6.111be.1",
    "111bf.111c0.0 111c9.111cc.1 111ce.111ce.0 111cf.111cf.1 1122c.1122e.0 1122f.11231.1",
    "11232.11233.0 11234.11234.1 11235.11235.0 11236.11237.1 1123e.1123e.1 11241.11241.1",
    "112df.112df.1 112e0.112e2.0 112e3.112ea.1 11300.11301.1 11302.11303.0 1133b.1133c.1",
    "1133e.1133f.0 11340.11340.1 11341.11344.0 11347.11348.0 1134b.1134d.0 11357.11357.0",
    "11362.11363.0 11366.1136c.1 11370.11374.1 11435.11437.0 11438.1143f.1 11440.11441.0",
    "11442.11444.1 11445.11445.0 11446.11446.1 1145e.1145e.1 114b0.114b2.0 114b3.114b8.1",
    "114b9.114b9.0 114ba.114ba.1 114bb.114be.0 114bf.114c0.1 114c1.114c1.0 114c2.114c3.1",
    "115af.115b1.0 115b2.115b5.1 115b8.115bb.0 115bc.115bd.1 115be.115be.0 115bf.115c0.1",
    "115dc.115dd.1 11630.11632.0 11633.1163a.1 1163b.1163c.0 1163d.1163d.1 1163e.1163e.0",
    "1163f.11640.1 116ab.116ab.1 116ac.116ac.0 116ad.116ad.1 116ae.116af.0 116b0.116b5.1",
    "116b6.116b6.0 116b7.116b7.1 1171d.1171f.1 11720.11721.0 11722.11725.1 11726.11726.0",
    "11727.1172b.1 1182c.1182e.0 1182f.11837.1 11838.11838.0 11839.1183a.1 11930.11935.0",
    "11937.11938.0 1193b.1193c.1 1193d.1193d.0 1193e.1193e.1 11940.11940.0 11942.11942.0",
    "11943.11943.1 119d1.119d3.0 119d4.119d7.1 119da.119db.1 119dc.119df.0 119e0.119e0.1",
    "119e4.119e4.0 11a01.11a0a.1 11a33.11a38.1 11a39.11a39.0 11a3b.11a3e.1 11a47.11a47.1",
    "11a51.11a56.1 11a57.11a58.0 11a59.11a5b.1 11a8a.11a96.1 11a97.11a97.0 11a98.11a99.1",
    "11c2f.11c2f.0 11c30.11c36.1 11c38.11c3d.1 11c3e.11c3e.0 11c3f.11c3f.1 11c92.11ca7.1",
    "11ca9.11ca9.0 11caa.11cb0.1 11cb1.11cb1.0 11cb2.11cb3.1 11cb4.11cb4.0 11cb5.11cb6.1",
    "11d31.11d36.1 11d3a.11d3a.1 11d3c.11d3d.1 11d3f.11d45.1 11d47.11d47.1 11d8a.11d8e.0",
    "11d90.11d91.1 11d93.11d94.0 11d95.11d95.1 11d96.11d96.0 11d97.11d97.1 11ef3.11ef4.1",
    "11ef5.11ef6.0 11f00.11f01.1 11f03.11f03.0 11f34.11f35.0 11f36.11f3a.1 11f3e.11f3f.0",
    "11f40.11f40.1 11f41.11f41.0 11f42.11f42.1 13440.13440.1 13447.13455.1 16af0.16af4.1",
    "16b30.16b36.1 16f4f.16f4f.1 16f51.16f87.0 16f8f.16f92.1 16fe4.16fe4.1 16ff0.16ff1.0",
    "1bc9d.1bc9e.1 1cf00.1cf2d.1 1cf30.1cf46.1 1d165.1d166.0 1d167.1d169.1 1d16d.1d172.0",
    "1d17b.1d182.1 1d185.1d18b.1 1d1aa.1d1ad.1 1d242.1d244.1 1da00.1da36.1 1da3b.1da6c.1",
    "1da75.1da75.1 1da84.1da84.1 1da9b.1da9f.1 1daa1.1daaf.1 1e000.1e006.1 1e008.1e018.1",
    "1e01b.1e021.1 1e023.1e024.1 1e026.1e02a.1 1e08f.1e08f.1 1e130.1e136.1 1e2ae.1e2ae.1",
    "1e2ec.1e2ef.1 1e4ec.1e4ef.1 1e8d0.1e8d6.1 1e944.1e94a.1"]

/-- Ranges of characters by direction: the first one, the last one, and the place of their class among
R, AL, AN, EN, ES, CS, ET, ON and BN. -/
def directionRows : List String :=
  ["0.8.8 e.1b.8 21.22.7 23.25.6 26.2a.7 2b.2b.4 2c.2c.5 2d.2d.4 2e.2f.5 30.39.3 3a.3a.5 3b.40.7",
    "5b.60.7 7b.7e.7 7f.7f.8 a1.a1.7 a2.a5.6 a6.a7.7 a9.a9.7 ab.ac.7 ae.ae.7 b0.b1.6 b6.b7.7",
    "bb.bb.7 bf.bf.7 d7.d7.7 f7.f7.7 2b9.2ba.7 2c2.2cf.7 2d2.2d7.7 2de.2df.7 2e5.2ed.7 2ef.2ff.7",
    "375.375.7 3f6.3f6.7 58a.58a.7 58d.58e.7 58f.58f.6 5be.5be.0 5c0.5c0.0 5c3.5c3.0 5c6.5c6.0",
    "5d0.5ea.0 5ef.5f4.0 606.607.7 608.608.1 609.60a.6 60b.60b.1 60c.60c.5 60d.60d.1 60e.60f.7",
    "61b.61b.1 61d.64a.1 660.669.2 66a.66a.6 66b.66c.2 66d.66f.1 671.674.1 679.6d5.1 6de.6de.7",
    "6e5.6e6.1 6e9.6e9.7 6ee.6ef.1 6f0.6f9.3 6fa.70d.1 710.710.1 712.72f.1 74d.7a5.1 7b1.7b1.1",
    "7c0.7ea.0 7f4.7f5.0 7f6.7f9.7 7fa.7fa.0 7fe.815.0 81a.81a.0 824.824.0 828.828.0 830.83e.0",
    "840.858.0 85e.85e.0 860.86a.1 870.88f.1 897.897.1 8a0.8c9.1 9f2.9f3.6 9fb.9fb.6 af1.af1.6",
    "bf3.bf8.7 bf9.bf9.6 bfa.bfa.7 c78.c7e.7 e3f.e3f.6 f3a.f3d.7 1390.1399.7 1400.1400.7",
    "169b.169c.7 17db.17db.6 17f0.17f9.7 1800.180a.7 1940.1940.7 1944.1945.7 19de.19ff.7",
    "200c.200d.8 2010.2010.7 2012.2016.7 2018.2023.7 2027.2027.7 2030.2032.6 2035.2035.7",
    "2038.203b.7 203d.203d.7 203f.2043.7 2044.2044.5 2045.2046.7 204a.2056.7 2058.205e.7",
    "20a0.20a7.6 20a9.20c1.6 2104.2104.7 2108.2108.7 2114.2114.7 2117.2118.7 211e.211f.7",
    "2123.2123.7 2125.2125.7 2127.2127.7 2129.2129.7 212e.212e.6 213a.213a.7 2141.2144.7",
    "214a.214d.7 218a.218b.7 2190.2211.7 2212.2212.4 2213.2213.6 2214.222b.7 222e.222e.7",
    "2231.2328.7 232b.2335.7 237b.2394.7 2396.2426.7 2440.244a.7 24eb.26ab.7 26ad.27ff.7",
    "2900.2a0b.7 2a0d.2a73.7 2a77.2adb.7 2add.2b73.7 2b76.2b95.7 2b97.2bff.7 2ce5.2cea.7",
    "2cf9.2cff.7 2e00.2e5d.7 2e80.2e99.7 2e9b.2e9e.7 2ea0.2ef2.7 3001.3001.7 3003.3004.7",
    "3008.3020.7 3030.3030.7 3037.3037.7 303d.303f.7 30a0.30a0.7 30fb.30fb.7 31c0.31e3.7",
    "4dc0.4dff.7 a490.a4c6.7 a60d.a60f.7 a673.a673.7 a67e.a67f.7 a700.a721.7 a788.a788.7",
    "a828.a82b.7 a838.a839.6 a874.a877.7 ab6a.ab6b.7 fbb2.fbd2.1 fd3e.fd4f.7 fd90.fd91.1",
    "fdc8.fdce.1 fdcf.fdcf.7 fdfd.fdff.7 fe45.fe46.7 fe73.fe73.1 10101.10101.7 10140.1018c.7",
    "10190.1019c.7 101a0.101a0.7 102e1.102fb.3 10800.10805.0 10808.10808.0 1080a.10835.0",
    "10837.10838.0 1083c.1083c.0 1083f.10855.0 10857.1089e.0 108a7.108af.0 108e0.108f2.0",
    "108f4.108f5.0 108fb.1091b.0 1091f.1091f.7 10920.10939.0 1093f.10959.0 10980.109b7.0",
    "109bc.109cf.0 109d2.10a00.0 10a10.10a13.0 10a15.10a17.0 10a19.10a35.0 10a40.10a48.0",
    "10a50.10a58.0 10a60.10a9f.0 10ac0.10ae4.0 10aeb.10af6.0 10b00.10b35.0 10b39.10b3f.7",
    "10b40.10b55.0 10b58.10b72.0 10b78.10b91.0 10b99.10b9c.0 10ba9.10baf.0 10c00.10c48.0",
    "10cc0.10cf2.0 10cfa.10cff.0 10d00.10d23.1 10d30.10d39.2 10d40.10d4f.0 10d69.10d85.0",
    "10d8e.10d8f.0 10e60.10e7e.2 10e80.10ea9.0 10ead.10ead.0 10eb0.10eb1.0 10ec2.10ec7.1",
    "10ed0.10ed8.1 10efa.10efc.1 10f00.10f27.0 10f30.10f45.1 10f51.10f59.1 10f70.10f81.0",
    "10f86.10f89.0 10fb0.10fcb.0 10fe0.10ff6.0 11052.11065.7 11660.1166c.7 11fd5.11fdc.7",
    "11fdd.11fe0.6 11fe1.11ff1.7 16fe2.16fe2.7 1d1e9.1d1ea.7 1d200.1d241.7 1d245.1d245.7",
    "1d300.1d356.7 1e2ff.1e2ff.6 1e800.1e8c4.0 1e8c7.1e8cf.0 1e922.1e943.0 1e94b.1e94b.0",
    "1e950.1e959.0 1e95e.1e95f.0 1ec71.1ecb4.1 1ed01.1ed3d.1 1eef0.1eef1.7 1f000.1f02b.7",
    "1f030.1f093.7 1f0a0.1f0ae.7 1f0b1.1f0bf.7 1f0c1.1f0cf.7 1f0d1.1f0f5.7 1f10b.1f10f.7",
    "1f12f.1f12f.7 1f16d.1f16f.7 1f1ad.1f1ad.7 1f260.1f265.7 1f300.1f6d7.7 1f6dc.1f6ec.7",
    "1f6f0.1f6fc.7 1f700.1f776.7 1f77b.1f7d9.7 1f7e0.1f7eb.7 1f7f0.1f7f0.7 1f800.1f80b.7",
    "1f810.1f847.7 1f850.1f859.7 1f860.1f887.7 1f890.1f8ad.7 1f8b0.1f8b1.7 1f900.1fa53.7",
    "1fa60.1fa6d.7 1fa70.1fa7c.7 1fa80.1fa88.7 1fa90.1fabd.7 1fabf.1fac5.7 1face.1fadb.7",
    "1fae0.1fae8.7 1faf0.1faf8.7 1fb00.1fb92.7 1fb94.1fbca.7"]

/-- Ranges of characters that are joined in writing: the first one, the last one, and the place of
their type among D, L and R. -/
def joiningRows : List String :=
  ["620.620.0 622.625.2 626.626.0 627.627.2 628.628.0 629.629.2 62a.62e.0 62f.632.2 633.63f.0",
    "641.647.0 648.648.2 649.64a.0 66e.66f.0 671.673.2 679.687.0 688.699.2 69a.6bf.0 6c0.6c0.2",
    "6c1.6c2.0 6c3.6cb.2 6cc.6cc.0 6cd.6cd.2 6ce.6ce.0 6cf.6cf.2 6d0.6d1.0 6d2.6d3.2 6d5.6d5.2",
    "6ee.6ef.2 6fa.6fc.0 6ff.6ff.0 710.710.2 712.714.0 715.719.2 71a.71d.0 71e.71e.2 71f.727.0",
    "728.728.2 729.729.0 72a.72a.2 72b.72b.0 72c.72c.2 72d.72e.0 72f.72f.2 74d.74d.2 74e.758.0",
    "759.75b.2 75c.76a.0 76b.76c.2 76d.770.0 771.771.2 772.772.0 773.774.2 775.777.0 778.779.2",
    "77a.77f.0 7ca.7ea.0 840.840.2 841.845.0 846.847.2 848.848.0 849.849.2 84a.853.0 854.854.2",
    "855.855.0 856.858.2 860.860.0 862.865.0 867.867.2 868.868.0 869.86a.2 870.882.2 886.886.0",
    "889.88d.0 88e.88e.2 8a0.8a9.0 8aa.8ac.2 8ae.8ae.2 8af.8b0.0 8b1.8b2.2 8b3.8b8.0 8b9.8b9.2",
    "8ba.8c8.0 1807.1807.0 1820.1878.0 1887.18a8.0 18aa.18aa.0 a840.a871.0 a872.a872.1",
    "10ac0.10ac4.0 10ac5.10ac5.2 10ac7.10ac7.2 10ac9.10aca.2 10acd.10acd.1 10ace.10ad2.2",
    "10ad3.10ad6.0 10ad7.10ad7.1 10ad8.10adc.0 10add.10add.2 10ade.10ae0.0 10ae1.10ae1.2",
    "10ae4.10ae4.2 10aeb.10aee.0 10aef.10aef.2 10b80.10b80.0 10b81.10b81.2 10b82.10b82.0",
    "10b83.10b85.2 10b86.10b88.0 10b89.10b89.2 10b8a.10b8b.0 10b8c.10b8c.2 10b8d.10b8d.0",
    "10b8e.10b8f.2 10b90.10b90.0 10b91.10b91.2 10ba9.10bac.2 10bad.10bae.0 10d00.10d00.1",
    "10d01.10d21.0 10d22.10d22.2 10d23.10d23.0 10f30.10f32.0 10f33.10f33.2 10f34.10f44.0",
    "10f51.10f53.0 10f54.10f54.2 10f70.10f73.0 10f74.10f75.2 10f76.10f81.0 10fb0.10fb0.0",
    "10fb2.10fb3.0 10fb4.10fb6.2 10fb8.10fb8.0 10fb9.10fba.2 10fbb.10fbc.0 10fbd.10fbd.2",
    "10fbe.10fbf.0 10fc1.10fc1.0 10fc2.10fc3.2 10fc4.10fc4.0 10fc9.10fc9.2 10fca.10fca.0",
    "10fcb.10fcb.1 1e922.1e943.0"]

end Unicode

end Gatehouse
