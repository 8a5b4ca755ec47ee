/-! Folding text to ASCII: each character is replaced by the ASCII characters of its
compatibility decomposition (Unicode 14), and characters with none are dropped.
The table lists runs `start.count.text`: `count` code points from `start`, the first
folding to `text` (hex bytes) and, for a run longer than one, each next one to the next
character. -/
namespace Portal.Text

def asciiFoldTable : String :=
  "a0.1.20 a8.1.20 aa.1.61 af.1.20 b2.2.32 b4.1.20 b8.1.20 b9.1.31 ba.1.6f bc.1.3134 bd.1.3132 " ++
  "be.1.3334 c0.1.41 c1.1.41 c2.1.41 c3.1.41 c4.1.41 c5.1.41 c7.1.43 c8.1.45 c9.1.45 ca.1.45 " ++
  "cb.1.45 cc.1.49 cd.1.49 ce.1.49 cf.1.49 d1.2.4e d3.1.4f d4.1.4f d5.1.4f d6.1.4f d9.1.55 da.1.55 " ++
  "db.1.55 dc.1.55 dd.1.59 e0.1.61 e1.1.61 e2.1.61 e3.1.61 e4.1.61 e5.1.61 e7.1.63 e8.1.65 e9.1.65 " ++
  "ea.1.65 eb.1.65 ec.1.69 ed.1.69 ee.1.69 ef.1.69 f1.2.6e f3.1.6f f4.1.6f f5.1.6f f6.1.6f f9.1.75 " ++
  "fa.1.75 fb.1.75 fc.1.75 fd.1.79 ff.1.79 100.1.41 101.1.61 102.1.41 103.1.61 104.1.41 105.1.61 " ++
  "106.1.43 107.1.63 108.1.43 109.1.63 10a.1.43 10b.1.63 10c.1.43 10d.1.63 10e.1.44 10f.1.64 " ++
  "112.1.45 113.1.65 114.1.45 115.1.65 116.1.45 117.1.65 118.1.45 119.1.65 11a.1.45 11b.1.65 " ++
  "11c.1.47 11d.1.67 11e.1.47 11f.1.67 120.1.47 121.1.67 122.1.47 123.1.67 124.1.48 125.1.68 " ++
  "128.1.49 129.1.69 12a.1.49 12b.1.69 12c.1.49 12d.1.69 12e.1.49 12f.1.69 130.1.49 132.1.494a " ++
  "133.1.696a 134.1.4a 135.1.6a 136.1.4b 137.1.6b 139.1.4c 13a.1.6c 13b.1.4c 13c.1.6c 13d.1.4c " ++
  "13e.1.6c 13f.1.4c 140.1.6c 143.1.4e 144.1.6e 145.1.4e 146.1.6e 147.1.4e 148.1.6e 149.1.6e " ++
  "14c.1.4f 14d.1.6f 14e.1.4f 14f.1.6f 150.1.4f 151.1.6f 154.1.52 155.1.72 156.1.52 157.1.72 " ++
  "158.1.52 159.1.72 15a.1.53 15b.1.73 15c.1.53 15d.1.73 15e.1.53 15f.1.73 160.1.53 161.1.73 " ++
  "162.1.54 163.1.74 164.1.54 165.1.74 168.1.55 169.1.75 16a.1.55 16b.1.75 16c.1.55 16d.1.75 " ++
  "16e.1.55 16f.1.75 170.1.55 171.1.75 172.1.55 173.1.75 174.1.57 175.1.77 176.1.59 177.1.79 " ++
  "178.2.59 17a.1.7a 17b.1.5a 17c.1.7a 17d.1.5a 17e.1.7a 17f.1.73 1a0.1.4f 1a1.1.6f 1af.1.55 " ++
  "1b0.1.75 1c4.1.445a 1c5.1.447a 1c6.1.647a 1c7.1.4c4a 1c8.1.4c6a 1c9.1.6c6a 1ca.1.4e4a " ++
  "1cb.1.4e6a 1cc.1.6e6a 1cd.1.41 1ce.1.61 1cf.1.49 1d0.1.69 1d1.1.4f 1d2.1.6f 1d3.1.55 1d4.1.75 " ++
  "1d5.1.55 1d6.1.75 1d7.1.55 1d8.1.75 1d9.1.55 1da.1.75 1db.1.55 1dc.1.75 1de.1.41 1df.1.61 " ++
  "1e0.1.41 1e1.1.61 1e6.1.47 1e7.1.67 1e8.1.4b 1e9.1.6b 1ea.1.4f 1eb.1.6f 1ec.1.4f 1ed.1.6f " ++
  "1f0.1.6a 1f1.1.445a 1f2.1.447a 1f3.1.647a 1f4.1.47 1f5.1.67 1f8.1.4e 1f9.1.6e 1fa.1.41 1fb.1.61 " ++
  "200.1.41 201.1.61 202.1.41 203.1.61 204.1.45 205.1.65 206.1.45 207.1.65 208.1.49 209.1.69 " ++
  "20a.1.49 20b.1.69 20c.1.4f 20d.1.6f 20e.1.4f 20f.1.6f 210.1.52 211.1.72 212.1.52 213.1.72 " ++
  "214.1.55 215.1.75 216.1.55 217.1.75 218.1.53 219.1.73 21a.1.54 21b.1.74 21e.1.48 21f.1.68 " ++
  "226.1.41 227.1.61 228.1.45 229.1.65 22a.1.4f 22b.1.6f 22c.1.4f 22d.1.6f 22e.1.4f 22f.1.6f " ++
  "230.1.4f 231.1.6f 232.1.59 233.1.79 2b0.1.68 2b2.1.6a 2b3.1.72 2b7.1.77 2b8.1.79 2d8.1.20 " ++
  "2d9.1.20 2da.1.20 2db.1.20 2dc.1.20 2dd.1.20 2e1.1.6c 2e2.1.73 2e3.1.78 37a.1.20 37e.1.3b " ++
  "384.1.20 385.1.20 1d2c.1.41 1d2e.1.42 1d30.2.44 1d33.8.47 1d3c.1.4f 1d3e.1.50 1d3f.1.52 " ++
  "1d40.2.54 1d42.1.57 1d43.1.61 1d47.1.62 1d48.2.64 1d4d.1.67 1d4f.1.6b 1d50.1.6d 1d52.1.6f " ++
  "1d56.1.70 1d57.2.74 1d5b.1.76 1d62.1.69 1d63.1.72 1d64.2.75 1d9c.1.63 1da0.1.66 1dbb.1.7a " ++
  "1e00.1.41 1e01.1.61 1e02.1.42 1e03.1.62 1e04.1.42 1e05.1.62 1e06.1.42 1e07.1.62 1e08.1.43 " ++
  "1e09.1.63 1e0a.1.44 1e0b.1.64 1e0c.1.44 1e0d.1.64 1e0e.1.44 1e0f.1.64 1e10.1.44 1e11.1.64 " ++
  "1e12.1.44 1e13.1.64 1e14.1.45 1e15.1.65 1e16.1.45 1e17.1.65 1e18.1.45 1e19.1.65 1e1a.1.45 " ++
  "1e1b.1.65 1e1c.1.45 1e1d.1.65 1e1e.1.46 1e1f.1.66 1e20.1.47 1e21.1.67 1e22.1.48 1e23.1.68 " ++
  "1e24.1.48 1e25.1.68 1e26.1.48 1e27.1.68 1e28.1.48 1e29.1.68 1e2a.1.48 1e2b.1.68 1e2c.1.49 " ++
  "1e2d.1.69 1e2e.1.49 1e2f.1.69 1e30.1.4b 1e31.1.6b 1e32.1.4b 1e33.1.6b 1e34.1.4b 1e35.1.6b " ++
  "1e36.1.4c 1e37.1.6c 1e38.1.4c 1e39.1.6c 1e3a.1.4c 1e3b.1.6c 1e3c.1.4c 1e3d.1.6c 1e3e.1.4d " ++
  "1e3f.1.6d 1e40.1.4d 1e41.1.6d 1e42.1.4d 1e43.1.6d 1e44.1.4e 1e45.1.6e 1e46.1.4e 1e47.1.6e " ++
  "1e48.1.4e 1e49.1.6e 1e4a.1.4e 1e4b.1.6e 1e4c.1.4f 1e4d.1.6f 1e4e.1.4f 1e4f.1.6f 1e50.1.4f " ++
  "1e51.1.6f 1e52.1.4f 1e53.1.6f 1e54.1.50 1e55.1.70 1e56.1.50 1e57.1.70 1e58.1.52 1e59.1.72 " ++
  "1e5a.1.52 1e5b.1.72 1e5c.1.52 1e5d.1.72 1e5e.1.52 1e5f.1.72 1e60.1.53 1e61.1.73 1e62.1.53 " ++
  "1e63.1.73 1e64.1.53 1e65.1.73 1e66.1.53 1e67.1.73 1e68.1.53 1e69.1.73 1e6a.1.54 1e6b.1.74 " ++
  "1e6c.1.54 1e6d.1.74 1e6e.1.54 1e6f.1.74 1e70.1.54 1e71.1.74 1e72.1.55 1e73.1.75 1e74.1.55 " ++
  "1e75.1.75 1e76.1.55 1e77.1.75 1e78.1.55 1e79.1.75 1e7a.1.55 1e7b.1.75 1e7c.1.56 1e7d.1.76 " ++
  "1e7e.1.56 1e7f.1.76 1e80.1.57 1e81.1.77 1e82.1.57 1e83.1.77 1e84.1.57 1e85.1.77 1e86.1.57 " ++
  "1e87.1.77 1e88.1.57 1e89.1.77 1e8a.1.58 1e8b.1.78 1e8c.1.58 1e8d.1.78 1e8e.1.59 1e8f.1.79 " ++
  "1e90.1.5a 1e91.1.7a 1e92.1.5a 1e93.1.7a 1e94.1.5a 1e95.1.7a 1e96.1.68 1e97.1.74 1e98.1.77 " ++
  "1e99.1.79 1e9a.1.61 1e9b.1.73 1ea0.1.41 1ea1.1.61 1ea2.1.41 1ea3.1.61 1ea4.1.41 1ea5.1.61 " ++
  "1ea6.1.41 1ea7.1.61 1ea8.1.41 1ea9.1.61 1eaa.1.41 1eab.1.61 1eac.1.41 1ead.1.61 1eae.1.41 " ++
  "1eaf.1.61 1eb0.1.41 1eb1.1.61 1eb2.1.41 1eb3.1.61 1eb4.1.41 1eb5.1.61 1eb6.1.41 1eb7.1.61 " ++
  "1eb8.1.45 1eb9.1.65 1eba.1.45 1ebb.1.65 1ebc.1.45 1ebd.1.65 1ebe.1.45 1ebf.1.65 1ec0.1.45 " ++
  "1ec1.1.65 1ec2.1.45 1ec3.1.65 1ec4.1.45 1ec5.1.65 1ec6.1.45 1ec7.1.65 1ec8.1.49 1ec9.1.69 " ++
  "1eca.1.49 1ecb.1.69 1ecc.1.4f 1ecd.1.6f 1ece.1.4f 1ecf.1.6f 1ed0.1.4f 1ed1.1.6f 1ed2.1.4f " ++
  "1ed3.1.6f 1ed4.1.4f 1ed5.1.6f 1ed6.1.4f 1ed7.1.6f 1ed8.1.4f 1ed9.1.6f 1eda.1.4f 1edb.1.6f " ++
  "1edc.1.4f 1edd.1.6f 1ede.1.4f 1edf.1.6f 1ee0.1.4f 1ee1.1.6f 1ee2.1.4f 1ee3.1.6f 1ee4.1.55 " ++
  "1ee5.1.75 1ee6.1.55 1ee7.1.75 1ee8.1.55 1ee9.1.75 1eea.1.55 1eeb.1.75 1eec.1.55 1eed.1.75 " ++
  "1eee.1.55 1eef.1.75 1ef0.1.55 1ef1.1.75 1ef2.1.59 1ef3.1.79 1ef4.1.59 1ef5.1.79 1ef6.1.59 " ++
  "1ef7.1.79 1ef8.1.59 1ef9.1.79 1fbd.1.20 1fbf.1.20 1fc0.1.20 1fc1.1.20 1fcd.1.20 1fce.1.20 " ++
  "1fcf.1.20 1fdd.1.20 1fde.1.20 1fdf.1.20 1fed.1.20 1fee.1.20 1fef.1.60 1ffd.1.20 1ffe.1.20 " ++
  "2000.1.20 2001.1.20 2002.1.20 2003.1.20 2004.1.20 2005.1.20 2006.1.20 2007.1.20 2008.1.20 " ++
  "2009.1.20 200a.1.20 2017.1.20 2024.1.2e 2025.1.2e2e 2026.1.2e2e2e 202f.1.20 203c.1.2121 " ++
  "203e.1.20 2047.1.3f3f 2048.1.3f21 2049.1.213f 205f.1.20 2070.1.30 2071.1.69 2074.6.34 207a.1.2b " ++
  "207c.1.3d 207d.2.28 207f.1.6e 2080.a.30 208a.1.2b 208c.1.3d 208d.2.28 2090.1.61 2091.1.65 " ++
  "2092.1.6f 2093.1.78 2095.1.68 2096.4.6b 209a.1.70 209b.2.73 20a8.1.5273 2100.1.612f63 " ++
  "2101.1.612f73 2102.1.43 2103.1.43 2105.1.632f6f 2106.1.632f75 2109.1.46 210a.1.67 210b.1.48 " ++
  "210c.1.48 210d.1.48 210e.1.68 2110.1.49 2111.1.49 2112.1.4c 2113.1.6c 2115.1.4e 2116.1.4e6f " ++
  "2119.3.50 211c.1.52 211d.1.52 2120.1.534d 2121.1.54454c 2122.1.544d 2124.1.5a 2128.1.5a " ++
  "212a.1.4b 212b.3.41 212f.1.65 2130.2.45 2133.1.4d 2134.1.6f 2139.1.69 213b.1.464158 2145.1.44 " ++
  "2146.2.64 2148.2.69 2150.1.3137 2151.1.3139 2152.1.313130 2153.1.3133 2154.1.3233 2155.1.3135 " ++
  "2156.1.3235 2157.1.3335 2158.1.3435 2159.1.3136 215a.1.3536 215b.1.3138 215c.1.3338 215d.1.3538 " ++
  "215e.1.3738 215f.1.31 2160.1.49 2161.1.4949 2162.1.494949 2163.1.4956 2164.1.56 2165.1.5649 " ++
  "2166.1.564949 2167.1.56494949 2168.1.4958 2169.1.58 216a.1.5849 216b.1.584949 216c.1.4c " ++
  "216d.2.43 216f.1.4d 2170.1.69 2171.1.6969 2172.1.696969 2173.1.6976 2174.1.76 2175.1.7669 " ++
  "2176.1.766969 2177.1.76696969 2178.1.6978 2179.1.78 217a.1.7869 217b.1.786969 217c.1.6c " ++
  "217d.2.63 217f.1.6d 2189.1.3033 2260.1.3d 226e.1.3c 226f.1.3e 2460.9.31 2469.1.3130 246a.1.3131 " ++
  "246b.1.3132 246c.1.3133 246d.1.3134 246e.1.3135 246f.1.3136 2470.1.3137 2471.1.3138 2472.1.3139 " ++
  "2473.1.3230 2474.1.283129 2475.1.283229 2476.1.283329 2477.1.283429 2478.1.283529 2479.1.283629 " ++
  "247a.1.283729 247b.1.283829 247c.1.283929 247d.1.28313029 247e.1.28313129 247f.1.28313229 " ++
  "2480.1.28313329 2481.1.28313429 2482.1.28313529 2483.1.28313629 2484.1.28313729 2485.1.28313829 " ++
  "2486.1.28313929 2487.1.28323029 2488.1.312e 2489.1.322e 248a.1.332e 248b.1.342e 248c.1.352e " ++
  "248d.1.362e 248e.1.372e 248f.1.382e 2490.1.392e 2491.1.31302e 2492.1.31312e 2493.1.31322e " ++
  "2494.1.31332e 2495.1.31342e 2496.1.31352e 2497.1.31362e 2498.1.31372e 2499.1.31382e " ++
  "249a.1.31392e 249b.1.32302e 249c.1.286129 249d.1.286229 249e.1.286329 249f.1.286429 " ++
  "24a0.1.286529 24a1.1.286629 24a2.1.286729 24a3.1.286829 24a4.1.286929 24a5.1.286a29 " ++
  "24a6.1.286b29 24a7.1.286c29 24a8.1.286d29 24a9.1.286e29 24aa.1.286f29 24ab.1.287029 " ++
  "24ac.1.287129 24ad.1.287229 24ae.1.287329 24af.1.287429 24b0.1.287529 24b1.1.287629 " ++
  "24b2.1.287729 24b3.1.287829 24b4.1.287929 24b5.1.287a29 24b6.1a.41 24d0.1a.61 24ea.1.30 " ++
  "2a74.1.3a3a3d 2a75.1.3d3d 2a76.1.3d3d3d 2c7c.1.6a 2c7d.1.56 3000.1.20 309b.1.20 309c.1.20 " ++
  "3200.1.2829 3201.1.2829 3202.1.2829 3203.1.2829 3204.1.2829 3205.1.2829 3206.1.2829 3207.1.2829 " ++
  "3208.1.2829 3209.1.2829 320a.1.2829 320b.1.2829 320c.1.2829 320d.1.2829 320e.1.2829 320f.1.2829 " ++
  "3210.1.2829 3211.1.2829 3212.1.2829 3213.1.2829 3214.1.2829 3215.1.2829 3216.1.2829 3217.1.2829 " ++
  "3218.1.2829 3219.1.2829 321a.1.2829 321b.1.2829 321c.1.2829 321d.1.2829 321e.1.2829 3220.1.2829 " ++
  "3221.1.2829 3222.1.2829 3223.1.2829 3224.1.2829 3225.1.2829 3226.1.2829 3227.1.2829 3228.1.2829 " ++
  "3229.1.2829 322a.1.2829 322b.1.2829 322c.1.2829 322d.1.2829 322e.1.2829 322f.1.2829 3230.1.2829 " ++
  "3231.1.2829 3232.1.2829 3233.1.2829 3234.1.2829 3235.1.2829 3236.1.2829 3237.1.2829 3238.1.2829 " ++
  "3239.1.2829 323a.1.2829 323b.1.2829 323c.1.2829 323d.1.2829 323e.1.2829 323f.1.2829 3240.1.2829 " ++
  "3241.1.2829 3242.1.2829 3243.1.2829 3250.1.505445 3251.1.3231 3252.1.3232 3253.1.3233 " ++
  "3254.1.3234 3255.1.3235 3256.1.3236 3257.1.3237 3258.1.3238 3259.1.3239 325a.1.3330 325b.1.3331 " ++
  "325c.1.3332 325d.1.3333 325e.1.3334 325f.1.3335 32b1.1.3336 32b2.1.3337 32b3.1.3338 32b4.1.3339 " ++
  "32b5.1.3430 32b6.1.3431 32b7.1.3432 32b8.1.3433 32b9.1.3434 32ba.1.3435 32bb.1.3436 32bc.1.3437 " ++
  "32bd.1.3438 32be.1.3439 32bf.1.3530 32c0.9.31 32c9.1.3130 32ca.1.3131 32cb.1.3132 32cc.1.4867 " ++
  "32cd.1.657267 32ce.1.6556 32cf.1.4c5444 3358.a.30 3362.1.3130 3363.1.3131 3364.1.3132 " ++
  "3365.1.3133 3366.1.3134 3367.1.3135 3368.1.3136 3369.1.3137 336a.1.3138 336b.1.3139 336c.1.3230 " ++
  "336d.1.3231 336e.1.3232 336f.1.3233 3370.1.3234 3371.1.685061 3372.1.6461 3373.1.4155 " ++
  "3374.1.626172 3375.1.6f56 3376.1.7063 3377.1.646d 3378.1.646d32 3379.1.646d33 337a.1.4955 " ++
  "3380.1.7041 3381.1.6e41 3382.1.41 3383.1.6d41 3384.1.6b41 3385.1.4b42 3386.1.4d42 3387.1.4742 " ++
  "3388.1.63616c 3389.1.6b63616c 338a.1.7046 338b.1.6e46 338c.1.46 338d.1.67 338e.1.6d67 " ++
  "338f.1.6b67 3390.1.487a 3391.1.6b487a 3392.1.4d487a 3393.1.47487a 3394.1.54487a 3395.1.6c " ++
  "3396.1.6d6c 3397.1.646c 3398.1.6b6c 3399.1.666d 339a.1.6e6d 339b.1.6d 339c.1.6d6d 339d.1.636d " ++
  "339e.1.6b6d 339f.1.6d6d32 33a0.1.636d32 33a1.1.6d32 33a2.1.6b6d32 33a3.1.6d6d33 33a4.1.636d33 " ++
  "33a5.1.6d33 33a6.1.6b6d33 33a7.1.6d73 33a8.1.6d7332 33a9.1.5061 33aa.1.6b5061 33ab.1.4d5061 " ++
  "33ac.1.475061 33ad.1.726164 33ae.1.72616473 33af.1.7261647332 33b0.1.7073 33b1.1.6e73 33b2.1.73 " ++
  "33b3.1.6d73 33b4.1.7056 33b5.1.6e56 33b6.1.56 33b7.1.6d56 33b8.1.6b56 33b9.1.4d56 33ba.1.7057 " ++
  "33bb.1.6e57 33bc.1.57 33bd.1.6d57 33be.1.6b57 33bf.1.4d57 33c0.1.6b 33c1.1.4d 33c2.1.612e6d2e " ++
  "33c3.1.4271 33c4.1.6363 33c5.1.6364 33c6.1.436b67 33c7.1.436f2e 33c8.1.6442 33c9.1.4779 " ++
  "33ca.1.6861 33cb.1.4850 33cc.1.696e 33cd.1.4b4b 33ce.1.4b4d 33cf.1.6b74 33d0.1.6c6d 33d1.1.6c6e " ++
  "33d2.1.6c6f67 33d3.1.6c78 33d4.1.6d62 33d5.1.6d696c 33d6.1.6d6f6c 33d7.1.5048 33d8.1.702e6d2e " ++
  "33d9.1.50504d 33da.1.5052 33db.1.7372 33dc.1.5376 33dd.1.5762 33de.1.566d 33df.1.416d 33e0.9.31 " ++
  "33e9.1.3130 33ea.1.3131 33eb.1.3132 33ec.1.3133 33ed.1.3134 33ee.1.3135 33ef.1.3136 33f0.1.3137 " ++
  "33f1.1.3138 33f2.1.3139 33f3.1.3230 33f4.1.3231 33f5.1.3232 33f6.1.3233 33f7.1.3234 33f8.1.3235 " ++
  "33f9.1.3236 33fa.1.3237 33fb.1.3238 33fc.1.3239 33fd.1.3330 33fe.1.3331 33ff.1.67616c a7f2.1.43 " ++
  "a7f3.1.46 a7f4.1.51 fb00.1.6666 fb01.1.6669 fb02.1.666c fb03.1.666669 fb04.1.66666c fb05.1.7374 " ++
  "fb06.1.7374 fb29.1.2b fc5e.1.20 fc5f.1.20 fc60.1.20 fc61.1.20 fc62.1.20 fc63.1.20 fdfa.1.202020 " ++
  "fdfb.1.20 fe10.1.2c fe13.2.3a fe15.1.21 fe16.1.3f fe19.1.2e2e2e fe30.1.2e2e fe33.1.5f fe34.1.5f " ++
  "fe35.2.28 fe37.1.7b fe38.1.7d fe47.1.5b fe48.1.5d fe49.1.20 fe4a.1.20 fe4b.1.20 fe4c.1.20 " ++
  "fe4d.1.5f fe4e.1.5f fe4f.1.5f fe50.1.2c fe52.1.2e fe54.1.3b fe55.1.3a fe56.1.3f fe57.1.21 " ++
  "fe59.2.28 fe5b.1.7b fe5c.1.7d fe5f.1.23 fe60.1.26 fe61.2.2a fe63.1.2d fe64.1.3c fe65.1.3e " ++
  "fe66.1.3d fe68.1.5c fe69.2.24 fe6b.1.40 fe70.1.20 fe72.1.20 fe74.1.20 fe76.1.20 fe78.1.20 " ++
  "fe7a.1.20 fe7c.1.20 fe7e.1.20 ff01.5e.21 ffe3.1.20 107a5.1.71 1d400.1a.41 1d41a.1a.61 " ++
  "1d434.1a.41 1d44e.7.61 1d456.12.69 1d468.1a.41 1d482.1a.61 1d49c.1.41 1d49e.2.43 1d4a2.1.47 " ++
  "1d4a5.2.4a 1d4a9.4.4e 1d4ae.8.53 1d4b6.4.61 1d4bb.1.66 1d4bd.7.68 1d4c5.b.70 1d4d0.1a.41 " ++
  "1d4ea.1a.61 1d504.2.41 1d507.4.44 1d50d.8.4a 1d516.7.53 1d51e.1a.61 1d538.2.41 1d53b.4.44 " ++
  "1d540.5.49 1d546.1.4f 1d54a.7.53 1d552.1a.61 1d56c.1a.41 1d586.1a.61 1d5a0.1a.41 1d5ba.1a.61 " ++
  "1d5d4.1a.41 1d5ee.1a.61 1d608.1a.41 1d622.1a.61 1d63c.1a.41 1d656.1a.61 1d670.1a.41 1d68a.1a.61 " ++
  "1d7ce.a.30 1d7d8.a.30 1d7e2.a.30 1d7ec.a.30 1d7f6.a.30 1f100.1.302e 1f101.1.302c 1f102.1.312c " ++
  "1f103.1.322c 1f104.1.332c 1f105.1.342c 1f106.1.352c 1f107.1.362c 1f108.1.372c 1f109.1.382c " ++
  "1f10a.1.392c 1f110.1.284129 1f111.1.284229 1f112.1.284329 1f113.1.284429 1f114.1.284529 " ++
  "1f115.1.284629 1f116.1.284729 1f117.1.284829 1f118.1.284929 1f119.1.284a29 1f11a.1.284b29 " ++
  "1f11b.1.284c29 1f11c.1.284d29 1f11d.1.284e29 1f11e.1.284f29 1f11f.1.285029 1f120.1.285129 " ++
  "1f121.1.285229 1f122.1.285329 1f123.1.285429 1f124.1.285529 1f125.1.285629 1f126.1.285729 " ++
  "1f127.1.285829 1f128.1.285929 1f129.1.285a29 1f12a.1.53 1f12b.1.43 1f12c.1.52 1f12d.1.4344 " ++
  "1f12e.1.575a 1f130.1a.41 1f14a.1.4856 1f14b.1.4d56 1f14c.1.5344 1f14d.1.5353 1f14e.1.505056 " ++
  "1f14f.1.5743 1f16a.1.4d43 1f16b.1.4d44 1f16c.1.4d52 1f190.1.444a 1fbf0.a.30 "

structure FoldRun where
  start : Nat
  count : Nat
  text : List Char

def hexNat (s : String) : Nat :=
  s.toList.foldl (fun n c =>
    n * 16 + (if c.isDigit then c.toNat - 48 else c.toNat - 87)) 0

def unhexChars : List Char → List Char
  | a :: b :: rest => Char.ofNat (hexNat (String.ofList [a, b])) :: unhexChars rest
  | _ => []

def foldRuns : List FoldRun :=
  (asciiFoldTable.splitOn " ").filterMap fun w =>
    match w.splitOn "." with
    | [a, b, c] => some ⟨hexNat a, hexNat b, unhexChars c.toList⟩
    | _ => none

def foldChar (c : Char) : List Char :=
  if c.toNat < 0x80 then [c] else
  match foldRuns.find? (fun r => r.start ≤ c.toNat ∧ c.toNat < r.start + r.count) with
  | none => []
  | some r =>
    match r.text with
    | [t] => [Char.ofNat (t.toNat + (c.toNat - r.start))]
    | t => t

def asciiFold (s : String) : String := String.ofList (s.toList.flatMap foldChar)

end Portal.Text
