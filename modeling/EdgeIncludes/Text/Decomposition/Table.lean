namespace EdgeIncludes
namespace Text

-- One step. An entry is the distance from the end of the last one and, behind an equals sign, the
-- code points of the parts. One with a plus sign is a run: the parts grow by one with each further
-- character.
def canonicalTable : List String := [
  "192=65.768 0=65.769 0=65.770 0=65.771 0=65.776 0=65.778 1=67.807 0=69.768 0=69.769 0=69.770",
  "0=69.776 0=73.768 0=73.769 0=73.770 0=73.776 1=78.771 0=79.768 0=79.769 0=79.770 0=79.771",
  "0=79.776 2=85.768 0=85.769 0=85.770 0=85.776 0=89.769 2=97.768 0=97.769 0=97.770 0=97.771",
  "0=97.776 0=97.778 1=99.807 0=101.768 0=101.769 0=101.770 0=101.776 0=105.768 0=105.769",
  "0=105.770 0=105.776 1=110.771 0=111.768 0=111.769 0=111.770 0=111.771 0=111.776 2=117.768",
  "0=117.769 0=117.770 0=117.776 0=121.769 1=121.776 0=65.772 0=97.772 0=65.774 0=97.774",
  "0=65.808 0=97.808 0=67.769 0=99.769 0=67.770 0=99.770 0=67.775 0=99.775 0=67.780 0=99.780",
  "0=68.780 0=100.780 2=69.772 0=101.772 0=69.774 0=101.774 0=69.775 0=101.775 0=69.808",
  "0=101.808 0=69.780 0=101.780 0=71.770 0=103.770 0=71.774 0=103.774 0=71.775 0=103.775",
  "0=71.807 0=103.807 0=72.770 0=104.770 2=73.771 0=105.771 0=73.772 0=105.772 0=73.774",
  "0=105.774 0=73.808 0=105.808 0=73.775 3=74.770 0=106.770 0=75.807 0=107.807 1=76.769",
  "0=108.769 0=76.807 0=108.807 0=76.780 0=108.780 4=78.769 0=110.769 0=78.807 0=110.807",
  "0=78.780 0=110.780 3=79.772 0=111.772 0=79.774 0=111.774 0=79.779 0=111.779 2=82.769",
  "0=114.769 0=82.807 0=114.807 0=82.780 0=114.780 0=83.769 0=115.769 0=83.770 0=115.770",
  "0=83.807 0=115.807 0=83.780 0=115.780 0=84.807 0=116.807 0=84.780 0=116.780 2=85.771",
  "0=117.771 0=85.772 0=117.772 0=85.774 0=117.774 0=85.778 0=117.778 0=85.779 0=117.779",
  "0=85.808 0=117.808 0=87.770 0=119.770 0=89.770 0=121.770 0=89.776 0=90.769 0=122.769 0=90.775",
  "0=122.775 0=90.780 0=122.780 33=79.795 0=111.795 13=85.795 0=117.795 28=65.780 0=97.780",
  "0=73.780 0=105.780 0=79.780 0=111.780 0=85.780 0=117.780 0=220.772 0=252.772 0=220.769",
  "0=252.769 0=220.780 0=252.780 0=220.768 0=252.768 1=196.772 0=228.772 0=550.772 0=551.772",
  "0=198.772 0=230.772 2=71.780 0=103.780 0=75.780 0=107.780 0=79.808 0=111.808 0=490.772",
  "0=491.772 0=439.780 0=658.780 0=106.780 3=71.769 0=103.769 2=78.768 0=110.768 0=197.769",
  "0=229.769 0=198.769 0=230.769 0=216.769 0=248.769 0=65.783 0=97.783 0=65.785 0=97.785",
  "0=69.783 0=101.783 0=69.785 0=101.785 0=73.783 0=105.783 0=73.785 0=105.785 0=79.783",
  "0=111.783 0=79.785 0=111.785 0=82.783 0=114.783 0=82.785 0=114.785 0=85.783 0=117.783",
  "0=85.785 0=117.785 0=83.806 0=115.806 0=84.806 0=116.806 2=72.780 0=104.780 6=65.775 0=97.775",
  "0=69.807 0=101.807 0=214.772 0=246.772 0=213.772 0=245.772 0=79.775 0=111.775 0=558.772",
  "0=559.772 0=89.772 0=121.772 268+1=768 1=787 0=776.769 47=697 9=59 6=168.769 0=913.769 0=183",
  "0=917.769 0=919.769 0=921.769 1=927.769 1=933.769 0=937.769 0=970.769 25=921.776 0=933.776",
  "0=945.769 0=949.769 0=951.769 0=953.769 0=971.769 25=953.776 0=965.776 0=959.769 0=965.769",
  "0=969.769 4=978.769 0=978.776 43=1045.768 0=1045.776 1=1043.769 3=1030.776 4=1050.769",
  "0=1048.768 0=1059.774 10=1048.774 31=1080.774 22=1077.768 0=1077.776 1=1075.769 3=1110.776",
  "4=1082.769 0=1080.768 0=1091.774 23=1140.783 0=1141.783 73=1046.774 0=1078.774 13=1040.774",
  "0=1072.774 0=1040.776 0=1072.776 2=1045.774 0=1077.774 2=1240.776 0=1241.776 0=1046.776",
  "0=1078.776 0=1047.776 0=1079.776 2=1048.772 0=1080.772 0=1048.776 0=1080.776 0=1054.776",
  "0=1086.776 2=1256.776 0=1257.776 0=1069.776 0=1101.776 0=1059.772 0=1091.772 0=1059.776",
  "0=1091.776 0=1059.779 0=1091.779 0=1063.776 0=1095.776 2=1067.776 0=1099.776 296=1575.1619",
  "0=1575.1620 0=1608.1620 0=1575.1621 0=1610.1620 153=1749.1620 1=1729.1620 16=1746.1620",
  "597=2344.2364 7=2352.2364 2=2355.2364 35=2325.2364 0=2326.2364 0=2327.2364 0=2332.2364",
  "0=2337.2364 0=2338.2364 0=2347.2364 0=2351.2364 107=2503.2494 0=2503.2519 15=2465.2492",
  "0=2466.2492 1=2479.2492 83=2610.2620 2=2616.2620 34=2582.2620 0=2583.2620 0=2588.2620",
  "2=2603.2620 233=2887.2902 2=2887.2878 0=2887.2903 15=2849.2876 0=2850.2876 54=2962.3031",
  "53=3014.3006 0=3015.3006 0=3014.3031 123=3142.3158 119=3263.3285 6=3270.3285 0=3270.3286",
  "1=3270.3266 0=3274.3285 126=3398.3390 0=3399.3390 0=3398.3415 141=3545.3530 1=3545.3535",
  "0=3548.3530 0=3545.3551 356=3906.4023 9=3916.4023 4=3921.4023 4=3926.4023 4=3931.4023",
  "12=3904.4021 9=3953.3954 1=3953.3956 0=4018.3968 1=4019.3968 8=3953.3968 17=3986.4023",
  "9=3996.4023 4=4001.4023 4=4006.4023 4=4011.4023 12=3984.4021 108=4133.4142 2783=6917.6965",
  "1=6919.6965 1=6921.6965 1=6923.6965 1=6925.6965 3=6929.6965 40=6970.6965 1=6972.6965",
  "2=6974.6965 0=6975.6965 1=6978.6965 700=65.805 0=97.805 0=66.775 0=98.775 0=66.803 0=98.803",
  "0=66.817 0=98.817 0=199.769 0=231.769 0=68.775 0=100.775 0=68.803 0=100.803 0=68.817",
  "0=100.817 0=68.807 0=100.807 0=68.813 0=100.813 0=274.768 0=275.768 0=274.769 0=275.769",
  "0=69.813 0=101.813 0=69.816 0=101.816 0=552.774 0=553.774 0=70.775 0=102.775 0=71.772",
  "0=103.772 0=72.775 0=104.775 0=72.803 0=104.803 0=72.776 0=104.776 0=72.807 0=104.807",
  "0=72.814 0=104.814 0=73.816 0=105.816 0=207.769 0=239.769 0=75.769 0=107.769 0=75.803",
  "0=107.803 0=75.817 0=107.817 0=76.803 0=108.803 0=7734.772 0=7735.772 0=76.817 0=108.817",
  "0=76.813 0=108.813 0=77.769 0=109.769 0=77.775 0=109.775 0=77.803 0=109.803 0=78.775",
  "0=110.775 0=78.803 0=110.803 0=78.817 0=110.817 0=78.813 0=110.813 0=213.769 0=245.769",
  "0=213.776 0=245.776 0=332.768 0=333.768 0=332.769 0=333.769 0=80.769 0=112.769 0=80.775",
  "0=112.775 0=82.775 0=114.775 0=82.803 0=114.803 0=7770.772 0=7771.772 0=82.817 0=114.817",
  "0=83.775 0=115.775 0=83.803 0=115.803 0=346.775 0=347.775 0=352.775 0=353.775 0=7778.775",
  "0=7779.775 0=84.775 0=116.775 0=84.803 0=116.803 0=84.817 0=116.817 0=84.813 0=116.813",
  "0=85.804 0=117.804 0=85.816 0=117.816 0=85.813 0=117.813 0=360.769 0=361.769 0=362.776",
  "0=363.776 0=86.771 0=118.771 0=86.803 0=118.803 0=87.768 0=119.768 0=87.769 0=119.769",
  "0=87.776 0=119.776 0=87.775 0=119.775 0=87.803 0=119.803 0=88.775 0=120.775 0=88.776",
  "0=120.776 0=89.775 0=121.775 0=90.770 0=122.770 0=90.803 0=122.803 0=90.817 0=122.817",
  "0=104.817 0=116.776 0=119.778 0=121.778 1=383.775 4=65.803 0=97.803 0=65.777 0=97.777",
  "0=194.769 0=226.769 0=194.768 0=226.768 0=194.777 0=226.777 0=194.771 0=226.771 0=7840.770",
  "0=7841.770 0=258.769 0=259.769 0=258.768 0=259.768 0=258.777 0=259.777 0=258.771 0=259.771",
  "0=7840.774 0=7841.774 0=69.803 0=101.803 0=69.777 0=101.777 0=69.771 0=101.771 0=202.769",
  "0=234.769 0=202.768 0=234.768 0=202.777 0=234.777 0=202.771 0=234.771 0=7864.770 0=7865.770",
  "0=73.777 0=105.777 0=73.803 0=105.803 0=79.803 0=111.803 0=79.777 0=111.777 0=212.769",
  "0=244.769 0=212.768 0=244.768 0=212.777 0=244.777 0=212.771 0=244.771 0=7884.770 0=7885.770",
  "0=416.769 0=417.769 0=416.768 0=417.768 0=416.777 0=417.777 0=416.771 0=417.771 0=416.803",
  "0=417.803 0=85.803 0=117.803 0=85.777 0=117.777 0=431.769 0=432.769 0=431.768 0=432.768",
  "0=431.777 0=432.777 0=431.771 0=432.771 0=431.803 0=432.803 0=89.768 0=121.768 0=89.803",
  "0=121.803 0=89.777 0=121.777 0=89.771 0=121.771 6=945.787 0=945.788 0=7936.768 0=7937.768",
  "0=7936.769 0=7937.769 0=7936.834 0=7937.834 0=913.787 0=913.788 0=7944.768 0=7945.768",
  "0=7944.769 0=7945.769 0=7944.834 0=7945.834 0=949.787 0=949.788 0=7952.768 0=7953.768",
  "0=7952.769 0=7953.769 2=917.787 0=917.788 0=7960.768 0=7961.768 0=7960.769 0=7961.769",
  "2=951.787 0=951.788 0=7968.768 0=7969.768 0=7968.769 0=7969.769 0=7968.834 0=7969.834",
  "0=919.787 0=919.788 0=7976.768 0=7977.768 0=7976.769 0=7977.769 0=7976.834 0=7977.834",
  "0=953.787 0=953.788 0=7984.768 0=7985.768 0=7984.769 0=7985.769 0=7984.834 0=7985.834",
  "0=921.787 0=921.788 0=7992.768 0=7993.768 0=7992.769 0=7993.769 0=7992.834 0=7993.834",
  "0=959.787 0=959.788 0=8000.768 0=8001.768 0=8000.769 0=8001.769 2=927.787 0=927.788",
  "0=8008.768 0=8009.768 0=8008.769 0=8009.769 2=965.787 0=965.788 0=8016.768 0=8017.768",
  "0=8016.769 0=8017.769 0=8016.834 0=8017.834 1=933.788 1=8025.768 1=8025.769 1=8025.834",
  "0=969.787 0=969.788 0=8032.768 0=8033.768 0=8032.769 0=8033.769 0=8032.834 0=8033.834",
  "0=937.787 0=937.788 0=8040.768 0=8041.768 0=8040.769 0=8041.769 0=8040.834 0=8041.834",
  "0=945.768 0=940 0=949.768 0=941 0=951.768 0=942 0=953.768 0=943 0=959.768 0=972 0=965.768",
  "0=973 0=969.768 0=974 2=7936.837 0=7937.837 0=7938.837 0=7939.837 0=7940.837 0=7941.837",
  "0=7942.837 0=7943.837 0=7944.837 0=7945.837 0=7946.837 0=7947.837 0=7948.837 0=7949.837",
  "0=7950.837 0=7951.837 0=7968.837 0=7969.837 0=7970.837 0=7971.837 0=7972.837 0=7973.837",
  "0=7974.837 0=7975.837 0=7976.837 0=7977.837 0=7978.837 0=7979.837 0=7980.837 0=7981.837",
  "0=7982.837 0=7983.837 0=8032.837 0=8033.837 0=8034.837 0=8035.837 0=8036.837 0=8037.837",
  "0=8038.837 0=8039.837 0=8040.837 0=8041.837 0=8042.837 0=8043.837 0=8044.837 0=8045.837",
  "0=8046.837 0=8047.837 0=945.774 0=945.772 0=8048.837 0=945.837 0=940.837 1=945.834 0=8118.837",
  "0=913.774 0=913.772 0=913.768 0=902 0=913.837 1=953 2=168.834 0=8052.837 0=951.837 0=942.837",
  "1=951.834 0=8134.837 0=917.768 0=904 0=919.768 0=905 0=919.837 0=8127.768 0=8127.769",
  "0=8127.834 0=953.774 0=953.772 0=970.768 0=912 2=953.834 0=970.834 0=921.774 0=921.772",
  "0=921.768 0=906 1=8190.768 0=8190.769 0=8190.834 0=965.774 0=965.772 0=971.768 0=944",
  "0=961.787 0=961.788 0=965.834 0=971.834 0=933.774 0=933.772 0=933.768 0=910 0=929.788",
  "0=168.768 0=901 0=96 2=8060.837 0=969.837 0=974.837 1=969.834 0=8182.837 0=927.768 0=908",
  "0=937.768 0=911 0=937.837 0=180 2+1=8194 292=937 3=75 0=197 110=8592.824 0=8594.824",
  "18=8596.824 30=8656.824 0=8660.824 0=8658.824 52=8707.824 4=8712.824 2=8715.824 23=8739.824",
  "1=8741.824 26=8764.824 2=8771.824 2=8773.824 1=8776.824 22=61.824 1=8801.824 10=8781.824",
  "0=60.824 0=62.824 0=8804.824 0=8805.824 2=8818.824 0=8819.824 2=8822.824 0=8823.824",
  "6=8826.824 0=8827.824 2=8834.824 0=8835.824 2=8838.824 0=8839.824 34=8866.824 0=8872.824",
  "0=8873.824 0=8875.824 48=8828.824 0=8829.824 0=8849.824 0=8850.824 6=8882.824 0=8883.824",
  "0=8884.824 0=8885.824 59+1=12296 1969=10973.824 1391=12363.12441 1=12365.12441 1=12367.12441",
  "1=12369.12441 1=12371.12441 1=12373.12441 1=12375.12441 1=12377.12441 1=12379.12441",
  "1=12381.12441 1=12383.12441 1=12385.12441 2=12388.12441 1=12390.12441 1=12392.12441",
  "6=12399.12441 0=12399.12442 1=12402.12441 0=12402.12442 1=12405.12441 0=12405.12442",
  "1=12408.12441 0=12408.12442 1=12411.12441 0=12411.12442 22=12358.12441 9=12445.12441",
  "13=12459.12441 1=12461.12441 1=12463.12441 1=12465.12441 1=12467.12441 1=12469.12441",
  "1=12471.12441 1=12473.12441 1=12475.12441 1=12477.12441 1=12479.12441 1=12481.12441",
  "2=12484.12441 1=12486.12441 1=12488.12441 6=12495.12441 0=12495.12442 1=12498.12441",
  "0=12498.12442 1=12501.12441 0=12501.12442 1=12504.12441 0=12504.12442 1=12507.12441",
  "0=12507.12442 22=12454.12441 2=12527.12441 0=12528.12441 0=12529.12441 0=12530.12441",
  "3=12541.12441 51201=35912 0=26356 0=36554 0=36040 0=28369 0=20018 0=21477 0=40860 0=40860",
  "0=22865 0=37329 0=21895 0=22856 0=25078 0=30313 0=32645 0=34367 0=34746 0=35064 0=37007",
  "0=27138 0=27931 0=28889 0=29662 0=33853 0=37226 0=39409 0=20098 0=21365 0=27396 0=29211",
  "0=34349 0=40478 0=23888 0=28651 0=34253 0=35172 0=25289 0=33240 0=34847 0=24266 0=26391",
  "0=28010 0=29436 0=37070 0=20358 0=20919 0=21214 0=25796 0=27347 0=29200 0=30439 0=32769",
  "0=34310 0=34396 0=36335 0=38706 0=39791 0=40442 0=30860 0=31103 0=32160 0=33737 0=37636",
  "0=40575 0=35542 0=22751 0=24324 0=31840 0=32894 0=29282 0=30922 0=36034 0=38647 0=22744",
  "0=23650 0=27155 0=28122 0=28431 0=32047 0=32311 0=38475 0=21202 0=32907 0=20956 0=20940",
  "0=31260 0=32190 0=33777 0=38517 0=35712 0=25295 0=27138 0=35582 0=20025 0=23527 0=24594",
  "0=29575 0=30064 0=21271 0=30971 0=20415 0=24489 0=19981 0=27852 0=25976 0=32034 0=21443",
  "0=22622 0=30465 0=33865 0=35498 0=27578 0=36784 0=27784 0=25342 0=33509 0=25504 0=30053",
  "0=20142 0=20841 0=20937 0=26753 0=31975 0=33391 0=35538 0=37327 0=21237 0=21570 0=22899",
  "0=24300 0=26053 0=28670 0=31018 0=38317 0=39530 0=40599 0=40654 0=21147 0=26310 0=27511",
  "0=36706 0=24180 0=24976 0=25088 0=25754 0=28451 0=29001 0=29833 0=31178 0=32244 0=32879",
  "0=36646 0=34030 0=36899 0=37706 0=21015 0=21155 0=21693 0=28872 0=35010 0=35498 0=24265",
  "0=24565 0=25467 0=27566 0=31806 0=29557 0=20196 0=22265 0=23527 0=23994 0=24604 0=29618",
  "0=29801 0=32666 0=32838 0=37428 0=38646 0=38728 0=38936 0=20363 0=31150 0=37300 0=38584",
  "0=24801 0=20102 0=20698 0=23534 0=23615 0=26009 0=27138 0=29134 0=30274 0=34044 0=36988",
  "0=40845 0=26248 0=38446 0=21129 0=26491 0=26611 0=27969 0=28316 0=29705 0=30041 0=30827",
  "0=32016 0=39006 0=20845 0=25134 0=38520 0=20523 0=23833 0=28138 0=36650 0=24459 0=24900",
  "0=26647 0=29575 0=38534 0=21033 0=21519 0=23653 0=26131 0=26446 0=26792 0=27877 0=29702",
  "0=30178 0=32633 0=35023 0=35041 0=37324 0=38626 0=21311 0=28346 0=21533 0=29136 0=29848",
  "0=34298 0=38563 0=40023 0=40607 0=26519 0=28107 0=33256 0=31435 0=31520 0=31890 0=29376",
  "0=28825 0=35672 0=20160 0=33590 0=21050 0=20999 0=24230 0=25299 0=31958 0=23429 0=27934",
  "0=26292 0=36667 0=34892 0=38477 0=35211 0=24275 0=20800 0=21952 2=22618 1=26228 2=20958",
  "0=29482 0=30410 0=31036 0=31070 0=31077 0=31119 0=38742 0=31934 0=32701 1=34322 1=35576",
  "2=36920 0=37117 3=39151 0=39164 0=39208 0=40372 0=37086 0=38583 0=20398 0=20711 0=20813",
  "0=21193 0=21220 0=21329 0=21917 0=22022 0=22120 0=22592 0=22696 0=23652 0=23662 0=24724",
  "0=24936 0=24974 0=25074 0=25935 0=26082 0=26257 0=26757 0=28023 0=28186 0=28450 0=29038",
  "0=29227 0=29730 0=30865 0=31038 0=31049 0=31048 0=31056 0=31062 0=31069 0+1=31117 0=31296",
  "0=31361 0=31680 0=32244 0=32265 0=32321 0=32626 0=32773 0=33261 0=33401 0=33401 0=33879",
  "0=35088 0=35222 0=35585 0=35641 0=36051 0=36104 0=36790 0=36920 0=38627 0=38911 0=38971",
  "0=24693 0=148206 0=33304 2=20006 0=20917 0=20840 0=20352 0=20805 0=20864 0=21191 0=21242",
  "0=21917 0=21845 0=21913 0=21986 0=22618 0=22707 0=22852 0=22868 0=23138 0=23336 0=24274",
  "0=24281 0=24425 0=24493 0=24792 0=24910 0=24840 0=24974 0=24928 0=25074 0=25140 0=25540",
  "0=25628 0=25682 0=25942 0=26228 0=26391 0=26395 0=26454 0=27513 0=27578 0=27969 0=28379",
  "0=28363 0=28450 0=28702 0=29038 0=30631 0=29237 0=29359 0=29482 0=29809 0=29958 0=30011",
  "0=30237 0=30239 0=30410 0=30427 0=30452 0=30538 0=30528 0=30924 0=31409 0=31680 0=31867",
  "0=32091 0=32244 0=32574 0=32773 0=33618 0=33775 0=34681 0=35137 0=35206 0=35222 0=35519",
  "0=35576 0=35531 0=35585 0=35582 0=35565 0=35641 0=35722 0=36104 0=36664 0=36978 0=37273",
  "0=37494 0=38524 0=38627 0=38742 0=38875 0=38911 0=38923 0=38971 0=39698 0=40860 0=141386",
  "0=141380 0=144341 0=15261 0=16408 0=16441 0=152137 0=154832 0=163539 0=40771 0=40846",
  "67=1497.1460 1=1522.1463 10=1513.1473 0=1513.1474 0=64329.1473 0=64329.1474 0=1488.1463",
  "0=1488.1464 0=1488.1468 0=1489.1468 0=1490.1468 0=1491.1468 0=1492.1468 0=1493.1468",
  "0=1494.1468 1=1496.1468 0=1497.1468 0=1498.1468 0=1499.1468 0=1500.1468 1=1502.1468",
  "1=1504.1468 0=1505.1468 1=1507.1468 0=1508.1468 1=1510.1468 0=1511.1468 0=1512.1468",
  "0=1513.1468 0=1514.1468 0=1493.1465 0=1489.1471 0=1499.1471 0=1508.1471 2682=67026.775",
  "26=67034.775 2741=69785.69818 1=69787.69818 14=69797.69818 130=69937.69927 0=69938.69927",
  "539=70471.70462 0=70471.70487 54=70530.70601 1=70532.70587 8=70539.70594 2=70544.70601",
  "51=70594.70594 1=70594.70584 0=70594.70601 242=70841.70842 0=70841.70832 1=70841.70845",
  "251=71096.71087 0=71097.71087 892=71989.71984 18408=90398.90398 0=90398.90409 0=90398.90399",
  "0=90409.90399 0=90398.90400 0=90401.90399 0=90402.90399 0=90401.90400 3135=93543.93543",
  "0=93539.93543 0=93545.93543 25587=119127.119141 0=119128.119141 0=119135.119150",
  "0=119135.119151 0=119135.119152 0=119135.119153 0=119135.119154 86=119225.119141",
  "0=119226.119141 0=119227.119150 0=119228.119150 0=119227.119151 0=119228.119151 75327=20029",
  "0=20024 0=20033 0=131362 0=20320 0=20398 0=20411 0=20482 0=20602 0=20633 0=20711 0=20687",
  "0=13470 0=132666 0=20813 0=20820 0=20836 0=20855 0=132380 0=13497 0=20839 0=20877 0=132427",
  "0=20887 0=20900 0=20172 0=20908 0=20917 0=168415 0=20981 0=20995 0=13535 0=21051 0=21062",
  "0=21106 0=21111 0=13589 0=21191 0=21193 0=21220 0=21242 0+1=21253 0=21271 0=21321 0=21329",
  "0=21338 0=21363 0=21373 0=21375 0=21375 0=21375 0=133676 0=28784 0=21450 0=21471 0=133987",
  "0=21483 0=21489 0=21510 0=21662 0=21560 0=21576 0=21608 0=21666 0=21750 0=21776 0=21843",
  "0=21859 0=21892 0=21892 0=21913 0=21931 0=21939 0=21954 0=22294 0=22022 0=22295 0=22097",
  "0=22132 0=20999 0=22766 0=22478 0=22516 0=22541 0=22411 0=22578 0=22577 0=22700 0=136420",
  "0=22770 0=22775 0=22790 0=22810 0=22818 0=22882 0=136872 0=136938 0=23020 0=23067 0=23079",
  "0=23000 0=23142 0=14062 0=14076 0=23304 0=23358 0=23358 0=137672 0=23491 0=23512 0=23527",
  "0=23539 0=138008 0=23551 0=23558 0=24403 0=23586 0=14209 0=23648 0=23662 0=23744 0=23693",
  "0=138724 0=23875 0=138726 0=23918 0=23915 0=23932 0+1=24033 0=14383 0=24061 0=24104 0=24125",
  "0=24169 0=14434 0=139651 0=14460 0=24240 0=24243 0=24246 0=24266 0=172946 0=24318 0=140081",
  "0=140081 0=33281 0=24354 0=24354 0=14535 0=144056 0=156122 0=24418 0=24427 0=14563 0=24474",
  "0=24525 0=24535 0=24569 0=24705 0=14650 0=14620 0=24724 0=141012 0=24775 0=24904 0=24908",
  "0=24910 0=24908 0=24954 0=24974 0=25010 0=24996 0=25007 0=25054 0=25074 0=25078 0=25104",
  "0=25115 0=25181 0=25265 0=25300 0=25424 0=142092 0=25405 0=25340 0=25448 0=25475 0=25572",
  "0=142321 0=25634 0=25541 0=25513 0=14894 0=25705 0=25726 0=25757 0=25719 0=14956 0=25935",
  "0=25964 0=143370 0=26083 0=26360 0=26185 0=15129 0=26257 0=15112 0=15076 0=20882 0=20885",
  "0=26368 0=26268 0=32941 0=17369 0=26391 0=26395 0=26401 0=26462 0=26451 0=144323 0=15177",
  "0=26618 0=26501 0=26706 0=26757 0=144493 0=26766 0=26655 0=26900 0=15261 0=26946 0=27043",
  "0=27114 0=27304 0=145059 0=27355 0=15384 0=27425 0=145575 0=27476 0=15438 0=27506 0=27551",
  "0+1=27578 0=146061 0=138507 0=146170 0=27726 0=146620 0=27839 0=27853 0=27751 0=27926 0=27966",
  "0=28023 0=27969 0=28009 0=28024 0=28037 0=146718 0=27956 0=28207 0=28270 0=15667 0=28363",
  "0=28359 0=147153 0=28153 0=28526 0=147294 0=147342 0=28614 0=28729 0=28702 0=28699 0=15766",
  "0=28746 0=28797 0=28791 0=28845 0=132389 0=28997 0=148067 0=29084 0=148395 0=29224 0=29237",
  "0=29264 0=149000 0=29312 0=29333 0=149301 0=149524 0=29562 0=29579 0=16044 0=29605 0=16056",
  "0=16056 0=29767 0=29788 0=29809 0=29829 0=29898 0=16155 0=29988 0=150582 0=30014 0=150674",
  "0=30064 0=139679 0=30224 0=151457 0=151480 0=151620 0=16380 0=16392 0=30452 0=151795 0=151794",
  "0=151833 0=151859 0+1=30494 0=30495 0=30538 0=16441 0=30603 0=16454 0=16534 0=152605 0=30798",
  "0=30860 0=30924 0=16611 0=153126 0=31062 0=153242 0=153285 0=31119 0=31211 0=16687 0=31296",
  "0=31306 0=31311 0=153980 0=154279 0=154279 0=31470 0=16898 0=154539 0=31686 0=31689 0=16935",
  "0=154752 0=31954 0=17056 0=31976 0=31971 0=32000 0=155526 0=32099 0=17153 0=32199 0=32258",
  "0=32325 0=17204 0=156200 0=156231 0=17241 0=156377 0=32634 0=156478 0=32661 0=32762 0=32773",
  "0=156890 0=156963 0=32864 0=157096 0=32880 0=144223 0=17365 0=32946 0=33027 0=17419 0=33086",
  "0=23221 0=157607 0=157621 0=144275 0=144284 0=33281 0=33284 0=36766 0=17515 0=33425 0=33419",
  "0=33437 0=21171 0=33457 0=33459 0=33469 0=33510 0=158524 0=33509 0=33565 0=33635 0=33709",
  "0=33571 0=33725 0=33767 0=33879 0=33619 0=33738 0=33740 0=33756 0=158774 0=159083 0=158933",
  "0=17707 0=34033 0=34035 0=34070 0=160714 0=34148 0=159532 0=17757 0=17761 0=159665 0=159954",
  "0=17771 0=34384 0=34396 0=34407 0=34409 0=34473 0=34440 0=34574 0=34530 0=34681 0=34600",
  "0=34667 0=34694 0=17879 0=34785 0=34817 0=17913 0=34912 0=34915 0=161383 0=35031 0=35038",
  "0=17973 0=35066 0=13499 0=161966 0=162150 0=18110 0=18119 0=35488 0=35565 0=35722 0=35925",
  "0=162984 0=36011 0=36033 0=36123 0=36215 0=163631 0=133124 0=36299 0=36284 0=36336 0=133342",
  "0=36564 0=36664 0=165330 0=165357 0=37012 0=37105 0=37137 0=165678 0=37147 0=37432 0+1=37591",
  "0=37500 0=37881 0=37909 0=166906 0=38283 0=18837 0=38327 0=167287 0=18918 0=38595 0=23986",
  "0=38691 0=168261 0=168474 0=19054 0=19062 0=38880 0=168970 0=19122 0=169110 0=38923 0=38923",
  "0=38953 0=169398 0=39138 0=19251 0=39209 0=39335 0=39362 0=39422 0=19406 0=170800 0=39698",
  "0=40000 0=40189 0=19662 0=19693 0=40295 0=172238 0=19704 0=172293 0=172558 0=172689 0=40635",
  "0=19798 0=40697 0=40702 0=40709 0=40719 0=40726 0=40763 0=173568"]

-- All the way, where the canonical table does not give it.
def compatibleTable : List String := [
  "160=32 7=32.776 1=97 4=32.772 2+1=50 0=32.769 0=956 2=32.807 0=49 0=111 1=49.8260.52",
  "0=49.8260.50 0=51.8260.52 115=73.74 0=105.106 11=76.183 0=108.183 8=700.110 53=115",
  "68=68.90.780 0=68.122.780 0=100.122.780 0=76.74 0=76.106 0=108.106 0=78.74 0=78.106 0=110.106",
  "36=68.90 0=68.122 0=100.122 188=104 0=614 0=106 0=114 0=633 0=635 0=641 0=119 0=121 31=32.774",
  "0=32.775 0=32.778 0=32.808 0=32.771 0=32.779 2=611 0=108 0=115 0=120 0=661 149=32.837",
  "9=32.769 0=32.776.769 74=946 0=952 0=933 0=933.769 0=933.776 0=966 0=960 25=954 0+1=961 1=920",
  "0=949 3=931 397=1381.1410 237=1575.1652 0=1608.1652 0=1735.1652 0=1610.1652 1978=3661.3634",
  "127=3789.3762 40=3755.3737 0=3755.3745 46=3851 106=4018.3953.3968 1=4019.3953.3968 386=4316",
  "3119=65 0=198 0=66 1+1=68 0=398 0+7=71 1=79 0=546 0=80 0=82 0+1=84 0=87 0=97 0+1=592 0=7426",
  "0=98 0+1=100 0=601 0+1=603 0=103 1=107 0=109 0=331 0=111 0=596 0+1=7446 0=112 0+1=116 0=7453",
  "0=623 0=118 0=7461 0+2=946 0+1=966 0=105 0=114 0+1=117 0+1=946 0=961 0+1=966 13=1085 34=594",
  "0=99 0=597 0=240 0=604 0=102 0=607 0=609 0=613 0+2=616 0=7547 0=669 0=621 0=7557 0=671 0=625",
  "0=624 0+3=626 0=632 0+1=642 0=427 0+1=649 0=7452 0+1=651 0=122 0+2=656 0=952 218=97.702",
  "0=115.775 289=32.787 1=32.787 0=32.834 0=32.776.834 11=32.787.768 0=32.787.769 0=32.787.834",
  "13=32.788.768 0=32.788.769 0=32.788.834 13=32.776.768 0=32.776.769 14=32.769 0=32.788 1=32",
  "0=32 0=32 0=32 0=32 0=32 0=32 0=32 0=32 0=32 0=32 6=8208 5=32.819 12=46 0=46.46 0=46.46.46",
  "8=32 3=8242.8242 0=8242.8242.8242 1=8245.8245 0=8245.8245.8245 4=33.33 1=32.773 8=63.63",
  "0=63.33 0=33.63 13=8242.8242.8242.8242 7=32 16=48 0=105 2+5=52 0=43 0=8722 0=61 0+1=40 0=110",
  "0+9=48 0=43 0=8722 0=61 0+1=40 1=97 0=101 0=111 0=120 0=601 0=104 0+3=107 0=112 0+1=115",
  "11=82.115 87=97.47.99 0=97.47.115 0=67 0=176.67 1=99.47.111 0=99.47.117 0=400 1=176.70 0=103",
  "0=72 0=72 0=72 0=104 0=295 0=73 0=73 0=76 0=108 1=78 0=78.111 2+2=80 0=82 0=82 2=83.77",
  "0=84.69.76 0=84.77 1=90 3=90 3+1=66 1=101 0+1=69 1=77 0=111 0+3=1488 0=105 1=70.65.88 0=960",
  "0=947 0=915 0=928 0=8721 4=68 0+1=100 0+1=105 6=49.8260.55 0=49.8260.57 0=49.8260.49.48",
  "0=49.8260.51 0=50.8260.51 0=49.8260.53 0=50.8260.53 0=51.8260.53 0=52.8260.53 0=49.8260.54",
  "0=53.8260.54 0=49.8260.56 0=51.8260.56 0=53.8260.56 0=55.8260.56 0=49.8260 0=73 0=73.73",
  "0=73.73.73 0=73.86 0=86 0=86.73 0=86.73.73 0=86.73.73.73 0=73.88 0=88 0=88.73 0=88.73.73 0=76",
  "0+1=67 0=77 0=105 0=105.105 0=105.105.105 0=105.118 0=118 0=118.105 0=118.105.105",
  "0=118.105.105.105 0=105.120 0=120 0=120.105 0=120.105.105 0=108 0+1=99 0=109 9=48.8260.51",
  "162=8747.8747 0=8747.8747.8747 1=8750.8750 0=8750.8750.8750 559+8=49 0=49.48 0=49.49 0=49.50",
  "0=49.51 0=49.52 0=49.53 0=49.54 0=49.55 0=49.56 0=49.57 0=50.48 0=40.49.41 0=40.50.41",
  "0=40.51.41 0=40.52.41 0=40.53.41 0=40.54.41 0=40.55.41 0=40.56.41 0=40.57.41 0=40.49.48.41",
  "0=40.49.49.41 0=40.49.50.41 0=40.49.51.41 0=40.49.52.41 0=40.49.53.41 0=40.49.54.41",
  "0=40.49.55.41 0=40.49.56.41 0=40.49.57.41 0=40.50.48.41 0=49.46 0=50.46 0=51.46 0=52.46",
  "0=53.46 0=54.46 0=55.46 0=56.46 0=57.46 0=49.48.46 0=49.49.46 0=49.50.46 0=49.51.46",
  "0=49.52.46 0=49.53.46 0=49.54.46 0=49.55.46 0=49.56.46 0=49.57.46 0=50.48.46 0=40.97.41",
  "0=40.98.41 0=40.99.41 0=40.100.41 0=40.101.41 0=40.102.41 0=40.103.41 0=40.104.41 0=40.105.41",
  "0=40.106.41 0=40.107.41 0=40.108.41 0=40.109.41 0=40.110.41 0=40.111.41 0=40.112.41",
  "0=40.113.41 0=40.114.41 0=40.115.41 0=40.116.41 0=40.117.41 0=40.118.41 0=40.119.41",
  "0=40.120.41 0=40.121.41 0=40.122.41 0+25=65 0+25=97 0=48 1313=8747.8747.8747.8747",
  "103=58.58.61 0=61.61 0=61.61.61 517=106 0=86 241=11617 303=27597 83=40863 12=19968 0=20008",
  "0=20022 0=20031 0=20057 0=20101 0=20108 0=20128 0=20154 0=20799 0=20837 0=20843 0=20866",
  "0=20886 0=20907 0=20960 0=20981 0=20992 0=21147 0=21241 0=21269 0=21274 0=21304 0=21313",
  "0=21340 0=21353 0=21378 0=21430 0=21448 0=21475 0=22231 0=22303 0=22763 0=22786 0=22794",
  "0=22805 0=22823 0=22899 0=23376 0=23424 0=23544 0=23567 0=23586 0=23608 0=23662 0=23665",
  "0=24027 0=24037 0=24049 0=24062 0=24178 0=24186 0=24191 0=24308 0=24318 0=24331 0=24339",
  "0=24400 0=24417 0=24435 0=24515 0=25096 0=25142 0=25163 0=25903 0=25908 0=25991 0=26007",
  "0=26020 0=26041 0=26080 0=26085 0=26352 0=26376 0=26408 0=27424 0=27490 0=27513 0=27571",
  "0=27595 0=27604 0=27611 0=27663 0=27668 0=27700 0=28779 0=29226 0=29238 0=29243 0=29247",
  "0=29255 0=29273 0=29275 0=29356 0=29572 0=29577 0=29916 0=29926 0=29976 0=29983 0=29992",
  "0=30000 0=30091 0=30098 0=30326 0=30333 0=30382 0=30399 0=30446 0=30683 0=30690 0=30707",
  "0=31034 0=31160 0=31166 0=31348 0=31435 0=31481 0=31859 0=31992 0=32566 0=32593 0=32650",
  "0=32701 0=32769 0=32780 0=32786 0=32819 0=32895 0=32905 0=33251 0=33258 0=33267 0=33276",
  "0=33292 0=33307 0=33311 0=33390 0=33394 0=33400 0=34381 0=34411 0=34880 0=34892 0=34915",
  "0=35198 0=35211 0=35282 0=35328 0=35895 0=35910 0=35925 0=35960 0=35997 0=36196 0=36208",
  "0=36275 0=36523 0=36554 0=36763 0=36784 0=36789 0=37009 0=37193 0=37318 0=37324 0=37329",
  "0=38263 0=38272 0=38428 0=38582 0=38585 0=38632 0=38737 0=38750 0=38754 0=38761 0=38859",
  "0=38893 0=38899 0=38913 0=39080 0=39131 0=39135 0=39318 0=39321 0=39340 0=39592 0=39640",
  "0=39647 0=39717 0=39727 0=39730 0=39740 0=39770 0=40165 0=40565 0=40575 0=40613 0=40635",
  "0=40643 0=40653 0=40657 0=40697 0=40701 0=40718 0=40723 0=40736 0=40763 0=40778 0=40786",
  "0=40845 0=40860 0=40864 42=32 53=12306 1=21313 0+1=21316 96=32.12441 0=32.12442 2=12424.12426",
  "95=12467.12488 49+1=4352 0=4522 0=4354 0+1=4524 0+2=4355 0+5=4528 0=4378 0+2=4358 0=4385",
  "0+9=4361 0+20=4449 0=4448 0+1=4372 0+1=4551 0=4556 0=4558 0=4563 0=4567 0=4569 0=4380 0=4573",
  "0=4575 0+1=4381 0=4384 0+1=4386 0=4391 0=4393 0+4=4395 0=4402 0=4406 0=4416 0=4423 0=4428",
  "0+1=4593 0+2=4439 0+1=4484 0=4488 0+1=4497 0=4500 0=4510 0=4513 3=19968 0=20108 0=19977",
  "0=22235 0=19978 0=20013 0=19979 0=30002 0=20057 0=19993 0=19969 0=22825 0=22320 0=20154",
  "96=40.4352.41 0=40.4354.41 0=40.4355.41 0=40.4357.41 0=40.4358.41 0=40.4359.41 0=40.4361.41",
  "0=40.4363.41 0=40.4364.41 0=40.4366.41 0=40.4367.41 0=40.4368.41 0=40.4369.41 0=40.4370.41",
  "0=40.4352.4449.41 0=40.4354.4449.41 0=40.4355.4449.41 0=40.4357.4449.41 0=40.4358.4449.41",
  "0=40.4359.4449.41 0=40.4361.4449.41 0=40.4363.4449.41 0=40.4364.4449.41 0=40.4366.4449.41",
  "0=40.4367.4449.41 0=40.4368.4449.41 0=40.4369.4449.41 0=40.4370.4449.41 0=40.4364.4462.41",
  "0=40.4363.4457.4364.4453.4523.41 0=40.4363.4457.4370.4462.41 1=40.19968.41 0=40.20108.41",
  "0=40.19977.41 0=40.22235.41 0=40.20116.41 0=40.20845.41 0=40.19971.41 0=40.20843.41",
  "0=40.20061.41 0=40.21313.41 0=40.26376.41 0=40.28779.41 0=40.27700.41 0=40.26408.41",
  "0=40.37329.41 0=40.22303.41 0=40.26085.41 0=40.26666.41 0=40.26377.41 0=40.31038.41",
  "0=40.21517.41 0=40.29305.41 0=40.36001.41 0=40.31069.41 0=40.21172.41 0=40.20195.41",
  "0=40.21628.41 0=40.23398.41 0=40.30435.41 0=40.20225.41 0=40.36039.41 0=40.21332.41",
  "0=40.31085.41 0=40.20241.41 0=40.33258.41 0=40.33267.41 0=21839 0=24188 0=25991 0=31631",
  "8=80.84.69 0=50.49 0=50.50 0=50.51 0=50.52 0=50.53 0=50.54 0=50.55 0=50.56 0=50.57 0=51.48",
  "0=51.49 0=51.50 0=51.51 0=51.52 0=51.53 0=4352 0+1=4354 0+2=4357 0=4361 0+1=4363 0+4=4366",
  "0=4352.4449 0=4354.4449 0=4355.4449 0=4357.4449 0=4358.4449 0=4359.4449 0=4361.4449",
  "0=4363.4449 0=4364.4449 0=4366.4449 0=4367.4449 0=4368.4449 0=4369.4449 0=4370.4449",
  "0=4366.4449.4535.4352.4457 0=4364.4462.4363.4468 0=4363.4462 1=19968 0=20108 0=19977 0=22235",
  "0=20116 0=20845 0=19971 0=20843 0=20061 0=21313 0=26376 0=28779 0=27700 0=26408 0=37329",
  "0=22303 0=26085 0=26666 0=26377 0=31038 0=21517 0=29305 0=36001 0=31069 0=21172 0=31192",
  "0=30007 0=22899 0=36969 0=20778 0=21360 0=27880 0=38917 0=20241 0=20889 0=27491 0=19978",
  "0=20013 0=19979 0=24038 0=21491 0=21307 0=23447 0=23398 0=30435 0=20225 0=36039 0=21332",
  "0=22812 0=51.54 0=51.55 0=51.56 0=51.57 0=52.48 0=52.49 0=52.50 0=52.51 0=52.52 0=52.53",
  "0=52.54 0=52.55 0=52.56 0=52.57 0=53.48 0=49.26376 0=50.26376 0=51.26376 0=52.26376",
  "0=53.26376 0=54.26376 0=55.26376 0=56.26376 0=57.26376 0=49.48.26376 0=49.49.26376",
  "0=49.50.26376 0=72.103 0=101.114.103 0=101.86 0=76.84.68 0=12450 0=12452 0=12454 0=12456",
  "0+1=12458 0=12461 0=12463 0=12465 0=12467 0=12469 0=12471 0=12473 0=12475 0=12477 0=12479",
  "0=12481 0=12484 0=12486 0=12488 0+5=12490 0=12498 0=12501 0=12504 0=12507 0+4=12510 0=12516",
  "0=12518 0+5=12520 0+3=12527 0=20196.21644 0=12450.12495.12442.12540.12488",
  "0=12450.12523.12501.12449 0=12450.12531.12504.12442.12450 0=12450.12540.12523",
  "0=12452.12491.12531.12463.12441 0=12452.12531.12481 0=12454.12457.12531",
  "0=12456.12473.12463.12540.12488.12441 0=12456.12540.12459.12540 0=12458.12531.12473",
  "0=12458.12540.12512 0=12459.12452.12522 0=12459.12521.12483.12488 0=12459.12525.12522.12540",
  "0=12459.12441.12525.12531 0=12459.12441.12531.12510 0=12461.12441.12459.12441",
  "0=12461.12441.12491.12540 0=12461.12517.12522.12540 0=12461.12441.12523.12479.12441.12540",
  "0=12461.12525 0=12461.12525.12463.12441.12521.12512 0=12461.12525.12513.12540.12488.12523",
  "0=12461.12525.12527.12483.12488 0=12463.12441.12521.12512",
  "0=12463.12441.12521.12512.12488.12531 0=12463.12523.12475.12441.12452.12525",
  "0=12463.12525.12540.12493 0=12465.12540.12473 0=12467.12523.12490 0=12467.12540.12507.12442",
  "0=12469.12452.12463.12523 0=12469.12531.12481.12540.12512 0=12471.12522.12531.12463.12441",
  "0=12475.12531.12481 0=12475.12531.12488 0=12479.12441.12540.12473 0=12486.12441.12471",
  "0=12488.12441.12523 0=12488.12531 0=12490.12494 0=12494.12483.12488 0=12495.12452.12484",
  "0=12495.12442.12540.12475.12531.12488 0=12495.12442.12540.12484",
  "0=12495.12441.12540.12524.12523 0=12498.12442.12450.12473.12488.12523",
  "0=12498.12442.12463.12523 0=12498.12442.12467 0=12498.12441.12523",
  "0=12501.12449.12521.12483.12488.12441 0=12501.12451.12540.12488",
  "0=12501.12441.12483.12471.12455.12523 0=12501.12521.12531 0=12504.12463.12479.12540.12523",
  "0=12504.12442.12477 0=12504.12442.12491.12498 0=12504.12523.12484 0=12504.12442.12531.12473",
  "0=12504.12442.12540.12471.12441 0=12504.12441.12540.12479 0=12507.12442.12452.12531.12488",
  "0=12507.12441.12523.12488 0=12507.12531 0=12507.12442.12531.12488.12441 0=12507.12540.12523",
  "0=12507.12540.12531 0=12510.12452.12463.12525 0=12510.12452.12523 0=12510.12483.12495",
  "0=12510.12523.12463 0=12510.12531.12471.12519.12531 0=12511.12463.12525.12531 0=12511.12522",
  "0=12511.12522.12495.12441.12540.12523 0=12513.12459.12441 0=12513.12459.12441.12488.12531",
  "0=12513.12540.12488.12523 0=12516.12540.12488.12441 0=12516.12540.12523 0=12518.12450.12531",
  "0=12522.12483.12488.12523 0=12522.12521 0=12523.12498.12442.12540",
  "0=12523.12540.12501.12441.12523 0=12524.12512 0=12524.12531.12488.12465.12441.12531",
  "0=12527.12483.12488 0=48.28857 0=49.28857 0=50.28857 0=51.28857 0=52.28857 0=53.28857",
  "0=54.28857 0=55.28857 0=56.28857 0=57.28857 0=49.48.28857 0=49.49.28857 0=49.50.28857",
  "0=49.51.28857 0=49.52.28857 0=49.53.28857 0=49.54.28857 0=49.55.28857 0=49.56.28857",
  "0=49.57.28857 0=50.48.28857 0=50.49.28857 0=50.50.28857 0=50.51.28857 0=50.52.28857",
  "0=104.80.97 0=100.97 0=65.85 0=98.97.114 0=111.86 0=112.99 0=100.109 0=100.109.50",
  "0=100.109.51 0=73.85 0=24179.25104 0=26157.21644 0=22823.27491 0=26126.27835",
  "0=26666.24335.20250.31038 0=112.65 0=110.65 0=956.65 0=109.65 0=107.65 0=75.66 0=77.66",
  "0=71.66 0=99.97.108 0=107.99.97.108 0=112.70 0=110.70 0=956.70 0=956.103 0=109.103 0=107.103",
  "0=72.122 0=107.72.122 0=77.72.122 0=71.72.122 0=84.72.122 0=956.108 0=109.108 0=100.108",
  "0=107.108 0=102.109 0=110.109 0=956.109 0=109.109 0=99.109 0=107.109 0=109.109.50 0=99.109.50",
  "0=109.50 0=107.109.50 0=109.109.51 0=99.109.51 0=109.51 0=107.109.51 0=109.8725.115",
  "0=109.8725.115.50 0=80.97 0=107.80.97 0=77.80.97 0=71.80.97 0=114.97.100",
  "0=114.97.100.8725.115 0=114.97.100.8725.115.50 0=112.115 0=110.115 0=956.115 0=109.115",
  "0=112.86 0=110.86 0=956.86 0=109.86 0=107.86 0=77.86 0=112.87 0=110.87 0=956.87 0=109.87",
  "0=107.87 0=77.87 0=107.937 0=77.937 0=97.46.109.46 0=66.113 0=99.99 0=99.100",
  "0=67.8725.107.103 0=67.111.46 0=100.66 0=71.121 0=104.97 0=72.80 0=105.110 0=75.75 0=75.77",
  "0=107.116 0=108.109 0=108.110 0=108.111.103 0=108.120 0=109.98 0=109.105.108 0=109.111.108",
  "0=80.72 0=112.46.109.46 0=80.80.77 0=80.82 0=115.114 0=83.118 0=87.98 0=86.8725.109",
  "0=65.8725.109 0=49.26085 0=50.26085 0=51.26085 0=52.26085 0=53.26085 0=54.26085 0=55.26085",
  "0=56.26085 0=57.26085 0=49.48.26085 0=49.49.26085 0=49.50.26085 0=49.51.26085 0=49.52.26085",
  "0=49.53.26085 0=49.54.26085 0=49.55.26085 0=49.56.26085 0=49.57.26085 0=50.48.26085",
  "0=50.49.26085 0=50.50.26085 0=50.51.26085 0=50.52.26085 0=50.53.26085 0=50.54.26085",
  "0=50.55.26085 0=50.56.26085 0=50.57.26085 0=51.48.26085 0=51.49.26085 0=103.97.108 29340=1098",
  "0=1100 210=42863 128=83 0=67 0=70 0=81 3=294 0=339 866=42791 0=43831 0=619 0=43858 9=653",
  "20374=102.102 0=102.105 0=102.108 0=102.102.105 0=102.102.108 0=115.116 0=115.116",
  "12=1396.1398 0=1396.1381 0=1396.1387 0=1406.1398 0=1396.1389 8=1506 0=1488 0+1=1491 0+2=1499",
  "0=1512 0=1514 0=43 37=1488.1500 0=1649 0=1649 0=1659 0=1659 0=1659 0=1659 0=1662 0=1662",
  "0=1662 0=1662 0=1664 0=1664 0=1664 0=1664 0=1658 0=1658 0=1658 0=1658 0=1663 0=1663 0=1663",
  "0=1663 0=1657 0=1657 0=1657 0=1657 0=1700 0=1700 0=1700 0=1700 0=1702 0=1702 0=1702 0=1702",
  "0=1668 0=1668 0=1668 0=1668 0=1667 0=1667 0=1667 0=1667 0=1670 0=1670 0=1670 0+1=1670 0=1671",
  "0=1671 0=1671 0=1677 0=1677 0=1676 0=1676 0=1678 0=1678 0=1672 0=1672 0=1688 0=1688 0=1681",
  "0=1681 0=1705 0=1705 0=1705 0=1705 0=1711 0=1711 0=1711 0=1711 0=1715 0=1715 0=1715 0=1715",
  "0=1713 0=1713 0=1713 0=1713 0=1722 0+1=1722 0=1723 0=1723 0=1723 0=1749.1620 0=1749.1620",
  "0=1729 0=1729 0=1729 0=1729 0=1726 0=1726 0=1726 0=1726 0=1746 0=1746 0=1746.1620 0=1746.1620",
  "33=1709 0=1709 0=1709 0=1709 0=1735 0=1735 0=1734 0=1734 0=1736 0=1736 0=1735.1652 0=1739",
  "0=1739 0=1733 0=1733 0=1737 0=1737 0=1744 0=1744 0=1744 0=1744 0=1609 0=1609 0=1610.1620.1575",
  "0=1610.1620.1575 0=1610.1620.1749 0=1610.1620.1749 0=1610.1620.1608 0=1610.1620.1608",
  "0=1610.1620.1735 0=1610.1620.1735 0=1610.1620.1734 0=1610.1620.1734 0=1610.1620.1736",
  "0=1610.1620.1736 0=1610.1620.1744 0=1610.1620.1744 0=1610.1620.1744 0=1610.1620.1609",
  "0=1610.1620.1609 0=1610.1620.1609 0=1740 0=1740 0=1740 0=1740 0=1610.1620.1580",
  "0=1610.1620.1581 0=1610.1620.1605 0=1610.1620.1609 0=1610.1620.1610 0=1576.1580 0=1576.1581",
  "0=1576.1582 0=1576.1605 0=1576.1609 0=1576.1610 0=1578.1580 0=1578.1581 0=1578.1582",
  "0=1578.1605 0=1578.1609 0=1578.1610 0=1579.1580 0=1579.1605 0=1579.1609 0=1579.1610",
  "0=1580.1581 0=1580.1605 0=1581.1580 0=1581.1605 0=1582.1580 0=1582.1581 0=1582.1605",
  "0=1587.1580 0=1587.1581 0=1587.1582 0=1587.1605 0=1589.1581 0=1589.1605 0=1590.1580",
  "0=1590.1581 0=1590.1582 0=1590.1605 0=1591.1581 0=1591.1605 0=1592.1605 0=1593.1580",
  "0=1593.1605 0=1594.1580 0=1594.1605 0=1601.1580 0=1601.1581 0=1601.1582 0=1601.1605",
  "0=1601.1609 0=1601.1610 0=1602.1581 0=1602.1605 0=1602.1609 0=1602.1610 0=1603.1575",
  "0=1603.1580 0=1603.1581 0=1603.1582 0=1603.1604 0=1603.1605 0=1603.1609 0=1603.1610",
  "0=1604.1580 0=1604.1581 0=1604.1582 0=1604.1605 0=1604.1609 0=1604.1610 0=1605.1580",
  "0=1605.1581 0=1605.1582 0=1605.1605 0=1605.1609 0=1605.1610 0=1606.1580 0=1606.1581",
  "0=1606.1582 0=1606.1605 0=1606.1609 0=1606.1610 0=1607.1580 0=1607.1605 0=1607.1609",
  "0=1607.1610 0=1610.1580 0=1610.1581 0=1610.1582 0=1610.1605 0=1610.1609 0=1610.1610",
  "0=1584.1648 0=1585.1648 0=1609.1648 0=32.1612.1617 0=32.1613.1617 0=32.1614.1617",
  "0=32.1615.1617 0=32.1616.1617 0=32.1617.1648 0=1610.1620.1585 0=1610.1620.1586",
  "0=1610.1620.1605 0=1610.1620.1606 0=1610.1620.1609 0=1610.1620.1610 0=1576.1585 0=1576.1586",
  "0=1576.1605 0=1576.1606 0=1576.1609 0=1576.1610 0=1578.1585 0=1578.1586 0=1578.1605",
  "0=1578.1606 0=1578.1609 0=1578.1610 0=1579.1585 0=1579.1586 0=1579.1605 0=1579.1606",
  "0=1579.1609 0=1579.1610 0=1601.1609 0=1601.1610 0=1602.1609 0=1602.1610 0=1603.1575",
  "0=1603.1604 0=1603.1605 0=1603.1609 0=1603.1610 0=1604.1605 0=1604.1609 0=1604.1610",
  "0=1605.1575 0=1605.1605 0=1606.1585 0=1606.1586 0=1606.1605 0=1606.1606 0=1606.1609",
  "0=1606.1610 0=1609.1648 0=1610.1585 0=1610.1586 0=1610.1605 0=1610.1606 0=1610.1609",
  "0=1610.1610 0=1610.1620.1580 0=1610.1620.1581 0=1610.1620.1582 0=1610.1620.1605",
  "0=1610.1620.1607 0=1576.1580 0=1576.1581 0=1576.1582 0=1576.1605 0=1576.1607 0=1578.1580",
  "0=1578.1581 0=1578.1582 0=1578.1605 0=1578.1607 0=1579.1605 0=1580.1581 0=1580.1605",
  "0=1581.1580 0=1581.1605 0=1582.1580 0=1582.1605 0=1587.1580 0=1587.1581 0=1587.1582",
  "0=1587.1605 0=1589.1581 0=1589.1582 0=1589.1605 0=1590.1580 0=1590.1581 0=1590.1582",
  "0=1590.1605 0=1591.1581 0=1592.1605 0=1593.1580 0=1593.1605 0=1594.1580 0=1594.1605",
  "0=1601.1580 0=1601.1581 0=1601.1582 0=1601.1605 0=1602.1581 0=1602.1605 0=1603.1580",
  "0=1603.1581 0=1603.1582 0=1603.1604 0=1603.1605 0=1604.1580 0=1604.1581 0=1604.1582",
  "0=1604.1605 0=1604.1607 0=1605.1580 0=1605.1581 0=1605.1582 0=1605.1605 0=1606.1580",
  "0=1606.1581 0=1606.1582 0=1606.1605 0=1606.1607 0=1607.1580 0=1607.1605 0=1607.1648",
  "0=1610.1580 0=1610.1581 0=1610.1582 0=1610.1605 0=1610.1607 0=1610.1620.1605 0=1610.1620.1607",
  "0=1576.1605 0=1576.1607 0=1578.1605 0=1578.1607 0=1579.1605 0=1579.1607 0=1587.1605",
  "0=1587.1607 0=1588.1605 0=1588.1607 0=1603.1604 0=1603.1605 0=1604.1605 0=1606.1605",
  "0=1606.1607 0=1610.1605 0=1610.1607 0=1600.1614.1617 0=1600.1615.1617 0=1600.1616.1617",
  "0=1591.1609 0=1591.1610 0=1593.1609 0=1593.1610 0=1594.1609 0=1594.1610 0=1587.1609",
  "0=1587.1610 0=1588.1609 0=1588.1610 0=1581.1609 0=1581.1610 0=1580.1609 0=1580.1610",
  "0=1582.1609 0=1582.1610 0=1589.1609 0=1589.1610 0=1590.1609 0=1590.1610 0=1588.1580",
  "0=1588.1581 0=1588.1582 0=1588.1605 0=1588.1585 0=1587.1585 0=1589.1585 0=1590.1585",
  "0=1591.1609 0=1591.1610 0=1593.1609 0=1593.1610 0=1594.1609 0=1594.1610 0=1587.1609",
  "0=1587.1610 0=1588.1609 0=1588.1610 0=1581.1609 0=1581.1610 0=1580.1609 0=1580.1610",
  "0=1582.1609 0=1582.1610 0=1589.1609 0=1589.1610 0=1590.1609 0=1590.1610 0=1588.1580",
  "0=1588.1581 0=1588.1582 0=1588.1605 0=1588.1585 0=1587.1585 0=1589.1585 0=1590.1585",
  "0=1588.1580 0=1588.1581 0=1588.1582 0=1588.1605 0=1587.1607 0=1588.1607 0=1591.1605",
  "0=1587.1580 0=1587.1581 0=1587.1582 0=1588.1580 0=1588.1581 0=1588.1582 0=1591.1605",
  "0=1592.1605 0=1575.1611 0=1575.1611 18=1578.1580.1605 0=1578.1581.1580 0=1578.1581.1580",
  "0=1578.1581.1605 0=1578.1582.1605 0=1578.1605.1580 0=1578.1605.1581 0=1578.1605.1582",
  "0=1580.1605.1581 0=1580.1605.1581 0=1581.1605.1610 0=1581.1605.1609 0=1587.1581.1580",
  "0=1587.1580.1581 0=1587.1580.1609 0=1587.1605.1581 0=1587.1605.1581 0=1587.1605.1580",
  "0=1587.1605.1605 0=1587.1605.1605 0=1589.1581.1581 0=1589.1581.1581 0=1589.1605.1605",
  "0=1588.1581.1605 0=1588.1581.1605 0=1588.1580.1610 0=1588.1605.1582 0=1588.1605.1582",
  "0=1588.1605.1605 0=1588.1605.1605 0=1590.1581.1609 0=1590.1582.1605 0=1590.1582.1605",
  "0=1591.1605.1581 0=1591.1605.1581 0=1591.1605.1605 0=1591.1605.1610 0=1593.1580.1605",
  "0=1593.1605.1605 0=1593.1605.1605 0=1593.1605.1609 0=1594.1605.1605 0=1594.1605.1610",
  "0=1594.1605.1609 0=1601.1582.1605 0=1601.1582.1605 0=1602.1605.1581 0=1602.1605.1605",
  "0=1604.1581.1605 0=1604.1581.1610 0=1604.1581.1609 0=1604.1580.1580 0=1604.1580.1580",
  "0=1604.1582.1605 0=1604.1582.1605 0=1604.1605.1581 0=1604.1605.1581 0=1605.1581.1580",
  "0=1605.1581.1605 0=1605.1581.1610 0=1605.1580.1581 0=1605.1580.1605 0=1605.1582.1580",
  "0=1605.1582.1605 2=1605.1580.1582 0=1607.1605.1580 0=1607.1605.1605 0=1606.1581.1605",
  "0=1606.1581.1609 0=1606.1580.1605 0=1606.1580.1605 0=1606.1580.1609 0=1606.1605.1610",
  "0=1606.1605.1609 0=1610.1605.1605 0=1610.1605.1605 0=1576.1582.1610 0=1578.1580.1610",
  "0=1578.1580.1609 0=1578.1582.1610 0=1578.1582.1609 0=1578.1605.1610 0=1578.1605.1609",
  "0=1580.1605.1610 0=1580.1581.1609 0=1580.1605.1609 0=1587.1582.1609 0=1589.1581.1610",
  "0=1588.1581.1610 0=1590.1581.1610 0=1604.1580.1610 0=1604.1605.1610 0=1610.1581.1610",
  "0=1610.1580.1610 0=1610.1605.1610 0=1605.1605.1610 0=1602.1605.1610 0=1606.1581.1610",
  "0=1602.1605.1581 0=1604.1581.1605 0=1593.1605.1610 0=1603.1605.1610 0=1606.1580.1581",
  "0=1605.1582.1610 0=1604.1580.1605 0=1603.1605.1605 0=1604.1580.1605 0=1606.1580.1581",
  "0=1580.1581.1610 0=1581.1580.1610 0=1605.1580.1610 0=1601.1605.1610 0=1576.1581.1610",
  "0=1603.1605.1605 0=1593.1580.1605 0=1589.1605.1605 0=1587.1582.1610 0=1606.1580.1610",
  "40=1589.1604.1746 0=1602.1604.1746 0=1575.1604.1604.1607 0=1575.1603.1576.1585",
  "0=1605.1581.1605.1583 0=1589.1604.1593.1605 0=1585.1587.1608.1604 0=1593.1604.1610.1607",
  "0=1608.1587.1604.1605 0=1589.1604.1609",
  "0=1589.1604.1609.32.1575.1604.1604.1607.32.1593.1604.1610.1607.32.1608.1587.1604.1605",
  "0=1580.1604.32.1580.1604.1575.1604.1607 0=1585.1740.1575.1604 19=44 0+1=12289 0+1=58 0=33",
  "0=63 0+1=12310 0=46.46.46 22=46.46 0=8212 0=8211 0=95 0=95 0+1=40 0=123 0=125 0+1=12308",
  "0+1=12304 0+1=12298 0+1=12296 0+3=12300 2=91 0=93 0=32.773 0=32.773 0=32.773 0=32.773 0=95",
  "0=95 0=95 0=44 0=12289 0=46 1=59 0=58 0=63 0=33 0=8212 0+1=40 0=123 0=125 0+1=12308 0=35 0=38",
  "0+1=42 0=45 0=60 0=62 0=61 1=92 0+1=36 0=64 4=32.1611 0=1600.1611 0=32.1612 1=32.1613",
  "1=32.1614 0=1600.1614 0=32.1615 0=1600.1615 0=32.1616 0=1600.1616 0=32.1617 0=1600.1617",
  "0=32.1618 0=1600.1618 0=1569 0=1575.1619 0=1575.1619 0=1575.1620 0=1575.1620 0=1608.1620",
  "0=1608.1620 0=1575.1621 0=1575.1621 0=1610.1620 0=1610.1620 0=1610.1620 0=1610.1620 0=1575",
  "0+1=1575 0=1576 0=1576 0+1=1576 0+1=1577 0=1578 0=1578 0+1=1578 0=1579 0=1579 0+1=1579 0=1580",
  "0=1580 0+1=1580 0=1581 0=1581 0+1=1581 0=1582 0=1582 0+1=1582 0+1=1583 0+1=1584 0+1=1585",
  "0+1=1586 0=1587 0=1587 0+1=1587 0=1588 0=1588 0+1=1588 0=1589 0=1589 0+1=1589 0=1590 0=1590",
  "0+1=1590 0=1591 0=1591 0+1=1591 0=1592 0=1592 0+1=1592 0=1593 0=1593 0+1=1593 0=1594 0=1594",
  "0=1594 0=1601 0=1601 0=1601 0+1=1601 0=1602 0=1602 0+1=1602 0=1603 0=1603 0+1=1603 0=1604",
  "0=1604 0+1=1604 0=1605 0=1605 0+1=1605 0=1606 0=1606 0+1=1606 0=1607 0=1607 0+1=1607 0+1=1608",
  "0+1=1609 0=1610 0=1610 0=1610 0=1604.1575.1619 0=1604.1575.1619 0=1604.1575.1620",
  "0=1604.1575.1620 0=1604.1575.1621 0=1604.1575.1621 0=1604.1575 0=1604.1575 4+93=33 0+1=10629",
  "0=12290 0+1=12300 0=12289 0=12539 0=12530 0=12449 0=12451 0=12453 0=12455 0=12457 0=12515",
  "0=12517 0=12519 0=12483 0=12540 0=12450 0=12452 0=12454 0=12456 0+1=12458 0=12461 0=12463",
  "0=12465 0=12467 0=12469 0=12471 0=12473 0=12475 0=12477 0=12479 0=12481 0=12484 0=12486",
  "0=12488 0+5=12490 0=12498 0=12501 0=12504 0=12507 0+4=12510 0=12516 0=12518 0+5=12520 0=12527",
  "0=12531 0+1=12441 0=4448 0+1=4352 0=4522 0=4354 0+1=4524 0+2=4355 0+5=4528 0=4378 0+2=4358",
  "0=4385 0+9=4361 3+5=4449 2+5=4455 2+5=4461 2+2=4467 3+1=162 0=172 0=32.772 0=166 0=165 0=8361",
  "1=9474 0+3=8592 0=9632 0=9675 1938+1=720 0=230 0=665 0=595 1=675 0=43878 0=677 0=676 0+1=598",
  "0=7569 0=600 0=606 0=681 0=612 0=610 0=608 0=667 0=295 0=668 0=615 0=644 0+1=682 0=620",
  "0=122628 0=42894 0=622 0=122629 0=654 0=122630 0=248 0+1=630 0=113 0=634 0=122632 0+1=637",
  "0=640 0=680 0=678 0=43879 0=679 0=648 0=11377 1=655 0+1=673 0=664 0+2=448 0=122634 0=122654",
  "50459+25=65 0+9=48 1798+25=65 0+25=97 0+25=65 0+6=97 1+17=105 0+25=65 0+25=97 0=65 1+1=67",
  "2=71 2+1=74 2+3=78 1+7=83 0+3=97 1=102 1+6=104 1+10=112 0+25=65 0+25=97 0+1=65 1+3=68 2+7=74",
  "1+6=83 1+25=97 0+1=65 1+3=68 1+4=73 1=79 3+6=83 1+25=97 0+25=65 0+25=97 0+25=65 0+25=97",
  "0+25=65 0+25=97 0+25=65 0+25=97 0+25=65 0+25=97 0+25=65 0+25=97 0=305 0=567 2+16=913 0=920",
  "0+6=931 0=8711 0+24=945 0=8706 0=949 0=952 0=954 0=966 0=961 0=960 0+16=913 0=920 0+6=931",
  "0=8711 0+24=945 0=8706 0=949 0=952 0=954 0=966 0=961 0=960 0+16=913 0=920 0+6=931 0=8711",
  "0+24=945 0=8706 0=949 0=952 0=954 0=966 0=961 0=960 0+16=913 0=920 0+6=931 0=8711 0+24=945",
  "0=8706 0=949 0=952 0=954 0=966 0=961 0=960 0+16=913 0=920 0+6=931 0=8711 0+24=945 0=8706",
  "0=949 0=952 0=954 0=966 0=961 0=960 0+1=988 2+9=48 0+9=48 0+9=48 0+9=48 0+9=48 2096+8=1072",
  "0+2=1082 0+10=1086 0=1099 0+1=1101 0=42633 0=1241 0=1110 0=1112 0=1257 0=1199 0=1231 0+8=1072",
  "0+1=1082 0+1=1086 0=1089 0+5=1091 0+1=1098 0=1169 0=1110 0=1109 0=1119 0=1195 0=42577 0=1201",
  "3474+1=1575 0=1580 0=1583 1=1608 0=1586 0=1581 0=1591 0=1610 0+3=1603 0=1587 0=1593 0=1601",
  "0=1589 0=1602 0=1585 0=1588 0+1=1578 0=1582 0=1584 0=1590 0=1592 0=1594 0=1646 0=1722 0=1697",
  "0=1647 1=1576 0=1580 1=1607 2=1581 1=1610 0+3=1603 0=1587 0=1593 0=1601 0=1589 0=1602 1=1588",
  "0+1=1578 0=1582 1=1590 1=1594 6=1580 4=1581 1=1610 1=1604 1=1606 0=1587 0=1593 1=1589 0=1602",
  "1=1588 2=1582 1=1590 1=1594 1=1722 1=1647 1=1576 0=1580 1=1607 2=1581 0=1591 0=1610 0=1603",
  "1+1=1605 0=1587 0=1593 0=1601 0=1589 0=1602 1=1588 0+1=1578 0=1582 1=1590 0=1592 0=1594",
  "0=1646 1=1697 1+1=1575 0=1580 0=1583 0+1=1607 0=1586 0=1581 0=1591 0=1610 1+2=1604 0=1587",
  "0=1593 0=1601 0=1589 0=1602 0=1585 0=1588 0+1=1578 0=1582 0=1584 0=1590 0=1592 0=1594 5=1576",
  "0=1580 0=1583 1=1608 0=1586 0=1581 0=1591 0=1610 1+2=1604 0=1587 0=1593 0=1601 0=1589 0=1602",
  "0=1585 0=1588 0+1=1578 0=1582 0=1584 0=1590 0=1592 0=1594 580=48.46 0=48.44 0=49.44 0=50.44",
  "0=51.44 0=52.44 0=53.44 0=54.44 0=55.44 0=56.44 0=57.44 5=40.65.41 0=40.66.41 0=40.67.41",
  "0=40.68.41 0=40.69.41 0=40.70.41 0=40.71.41 0=40.72.41 0=40.73.41 0=40.74.41 0=40.75.41",
  "0=40.76.41 0=40.77.41 0=40.78.41 0=40.79.41 0=40.80.41 0=40.81.41 0=40.82.41 0=40.83.41",
  "0=40.84.41 0=40.85.41 0=40.86.41 0=40.87.41 0=40.88.41 0=40.89.41 0=40.90.41 0=12308.83.12309",
  "0=67 0=82 0=67.68 0=87.90 1+25=65 0=72.86 0=77.86 0=83.68 0=83.83 0=80.80.86 0=87.67 26=77.67",
  "0=77.68 0=77.82 35=68.74 111=12411.12363 0=12467.12467 0=12469 13=25163 0=23383 0=21452",
  "0=12486.12441 0=20108 0=22810 0=35299 0=22825 0=20132 0=26144 0=28961 0=26009 0=21069 0=24460",
  "0=20877 0=26032 0=21021 0=32066 0=29983 0=36009 0=22768 0=21561 0=28436 0=25237 0=25429",
  "0=19968 0=19977 0=36938 0=24038 0=20013 0=21491 0=25351 0=36208 0=25171 0=31105 0=31354",
  "0=21512 0=28288 0=26377 0=26376 0=30003 0=21106 0=21942 0=37197 4=12308.26412.12309",
  "0=12308.19977.12309 0=12308.20108.12309 0=12308.23433.12309 0=12308.28857.12309",
  "0=12308.25171.12309 0=12308.30423.12309 0=12308.21213.12309 0=12308.25943.12309 7=24471",
  "0=21487 2462+9=48"]

-- Classes of marks, with the characters in the form of `CharSet.ofTable`.
def combiningTable : List (Nat × List String) := [
  (1, ["820+4 6555 13+6 1001+1 4+2 10+1 3+1 59725 24758+4 20905 5320+2"]),
  (6, ["94192+1"]),
  (7, [
    "2364 127 127 127 127 255 127 890 2812 177 80 36219 26374 184 86 107 178 81+1 265 124 252",
    "246 386 264 1022 52231"]),
  (8, ["12441+1"]),
  (9, [
    "2381 127 127 127 127 127 127 127 109+1 16 124 111 127 201 180+1 1753+1 30 157 653 227 101+1",
    "70+1 4491 31366 37 151 142 108 309 246 24145 1542 41 14 57 121+1 139 116 180 98 128+2 113",
    "127 252 127 118 116 269 259+1 161 83 18 81 421 260+1 81 425+1 16876"]),
  (10, ["1456"]),
  (11, ["1457"]),
  (12, ["1458"]),
  (13, ["1459"]),
  (14, ["1460"]),
  (15, ["1461"]),
  (16, ["1462"]),
  (17, ["1463"]),
  (18, ["1464 14"]),
  (19, ["1465+1"]),
  (20, ["1467"]),
  (21, ["1468"]),
  (22, ["1469"]),
  (23, ["1471"]),
  (24, ["1473"]),
  (25, ["1474"]),
  (26, ["64286"]),
  (27, ["1611 676"]),
  (28, ["1612 676"]),
  (29, ["1613 676"]),
  (30, ["1560 53"]),
  (31, ["1561 53"]),
  (32, ["1562 53"]),
  (33, ["1617"]),
  (34, ["1618"]),
  (35, ["1648"]),
  (36, ["1809"]),
  (84, ["3157"]),
  (91, ["3158"]),
  (103, ["3640+1"]),
  (107, ["3656+3"]),
  (118, ["3768+1"]),
  (122, ["3784+3"]),
  (129, ["3953"]),
  (130, ["3954 7+3 2"]),
  (132, ["3956"]),
  (202, ["801+1 4+1 6823"]),
  (214, ["7630"]),
  (216, ["795 3101 115243+1 7+4"]),
  (218, ["7674 4655"]),
  (220, [
    "790+3 2+4 2+3 2+10 5+3 10+2 3+1 4+3 2+1 566 4 4 6+5 2 26 143+1 5 2 131 6 2 67 2 2+2 1+1 1 3",
    "1 1 1 169 10 91+2 61+2 51+4 15 2 2 3+2 6 2+1 87 1477+1 27 1 142 198 2221 220 102 53+5 2 1+1",
    "2+1 5 18 8 133 360+4 2+3 13 212 7 4 41 3 1 744 3+3 34875+2 390 21362+6 975 226 1836 44 171",
    "1043+1 1+2 70+1 3 1+3 50 1 49653+7 7+1 4962 256 736+6"]),
  (222, ["1434 18 5003 5875"]),
  (224, ["12334+1"]),
  (226, ["119149"]),
  (228, ["1454 4858 1357+1 4658"]),
  (230, [
    "768+20 40+7 1 3+2 3+2 4 3 7+12 275+4 266+3 1+2 2+5 6+1 1+1 2 20 75+7 59+1 2+4 1+1 119+6 2+3",
    "1 2+1 2+1 67 1+1 1+1 3 2 1+2 1 1 1 1+1 160+6 1 34+3 1+8 1+2 1+4 105+1 3+3 42+4 5+13 2+1 1+1",
    "1+2 6+2 1+1 2+4 81 1+1 169 1411+1 2+1 981+2 1149 348 220 93+7 51+4 6+1 4+1 2+4 1+17 3+5 1+3",
    "128 1+6 348+2 7+1 4 19 3+1 198+1 1+6 1+1 4+36 5 2 721+1 2+3 3+1 4 5 1 6 3070+2 238+31 30831",
    "4+9 32+1 80+1 494+17 446 1+1 3+1 5+1 1 21342+6 7+1 1350+4 1684 40 172 574+3 65+4 317+1",
    "155+2 1 53 1 379+2 611+6 3+4 233 22225+6 26190+4 32+3 148+2 3515+6 1+16 2+6 1+1 1+4 100",
    "160+6 375 61+3 511 254 244 2 7+1 5 590+5"]),
  (232, ["789 4 61 6813 4661 111807+1"]),
  (233, ["860 2 2 6809"]),
  (234, ["861+1 1+1 6025 737"]),
  (240, ["837"])]

def neverComposedTable : List String := [
  "836 1555+7 124+1 1 83 2 34+2 2 253+1 997 9 4 4 4 12 9 1+1 1 8 17 9 4 4 4 12 6946 53312 1",
  "10+12 1+4 1 1+1 1+1 1+8 54799+6 86+5"]

end Text
end EdgeIncludes
