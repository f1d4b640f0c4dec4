import Signpost.Zone.History

/-!
# Zones further ahead

Zones that were more than three hours ahead of universal time at the start of 2007, by their offsets
then, each with its history since. Zones that have had one history stand together.
-/

namespace Signpost.Zone

/-- Zones that were more than three hours ahead of universal time at the start of 2007. -/
def east : List History :=
  [
    ⟨["Asia/Tehran", "Iran"], 210,
      [.once 200803202030 270, .once 200809201930 210, .once 200903212030 270,
        .once 200909211930 210, .once 201003212030 270, .once 201009211930 210,
        .once 201103212030 270, .once 201109211930 210, .once 201203202030 270,
        .once 201209201930 210, .once 201303212030 270, .once 201309211930 210,
        .once 201403212030 270, .once 201409211930 210, .once 201503212030 270,
        .once 201509211930 210, .once 201603202030 270, .once 201609201930 210,
        .once 201703212030 270, .once 201709211930 210, .once 201803212030 270,
        .once 201809211930 210, .once 201903212030 270, .once 201909211930 210,
        .once 202003202030 270, .once 202009201930 210, .once 202103212030 270,
        .once 202109211930 210, .once 202203212030 270, .once 202209211930 210]⟩,
    ⟨["Asia/Baku"], 240, [.yearly 2007 2015 [⟨3, 25, 0, 0, 300⟩, ⟨10, 25, 0, 0, 240⟩]]⟩,
    ⟨["Asia/Dubai", "Asia/Muscat", "Asia/Tbilisi", "Etc/GMT-4", "Indian/Mahe", "Indian/Reunion"],
      240, []⟩,
    ⟨["Asia/Yerevan"], 240, [.yearly 2007 2011 [⟨3, 23, 6, 2200, 300⟩, ⟨10, 24, 6, 2200, 240⟩]]⟩,
    ⟨["Europe/Samara"], 240,
      [.yearly 2007 2009 [⟨3, 23, 6, 2200, 300⟩, ⟨10, 22, 6, 2200, 240⟩], .once 201010302300 180,
        .once 201103262300 240]⟩,
    ⟨["Indian/Mauritius"], 240, [.once 200810252200 300, .once 200903282100 240]⟩,
    ⟨["Asia/Kabul"], 270, []⟩,
    ⟨["Asia/Aqtau", "Asia/Aqtobe", "Asia/Ashgabat", "Asia/Ashkhabad", "Asia/Atyrau",
      "Asia/Dushanbe", "Asia/Oral", "Asia/Samarkand", "Asia/Tashkent", "Etc/GMT-5",
      "Indian/Kerguelen", "Indian/Maldives"], 300, []⟩,
    ⟨["Asia/Karachi"], 300,
      [.once 200805311900 360, .once 200810311800 300, .once 200904141900 360,
        .once 200910311800 300]⟩,
    ⟨["Asia/Yekaterinburg"], 300,
      [.yearly 2007 2010 [⟨3, 23, 6, 2100, 360⟩, ⟨10, 24, 6, 2100, 300⟩], .once 201103262100 360,
        .once 201410252000 300]⟩,
    ⟨["Asia/Colombo"], 330, []⟩,
    ⟨["Asia/Kathmandu", "Asia/Katmandu"], 345, []⟩,
    ⟨["Asia/Calcutta", "Asia/Kolkata"], 353, [.once 190601010000 330]⟩,
    ⟨["Antarctica/Mawson"], 360, [.once 200910172000 300]⟩,
    ⟨["Asia/Almaty", "Asia/Qostanay"], 360, [.once 202402291800 300]⟩,
    ⟨["Asia/Barnaul"], 360,
      [.yearly 2007 2010 [⟨3, 23, 6, 2000, 420⟩, ⟨10, 24, 6, 2000, 360⟩], .once 201103262000 420,
        .once 201410251900 360, .once 201603262000 420]⟩,
    ⟨["Asia/Bishkek", "Asia/Kashgar", "Asia/Thimbu", "Asia/Thimphu", "Asia/Urumqi", "Etc/GMT-6",
      "Indian/Chagos"], 360, []⟩,
    ⟨["Asia/Dacca", "Asia/Dhaka"], 360, [.once 200906191700 420, .once 200912311700 360]⟩,
    ⟨["Asia/Novosibirsk"], 360,
      [.yearly 2007 2010 [⟨3, 23, 6, 2000, 420⟩, ⟨10, 24, 6, 2000, 360⟩], .once 201103262000 420,
        .once 201410251900 360, .once 201607232000 420]⟩,
    ⟨["Asia/Omsk"], 360,
      [.yearly 2007 2010 [⟨3, 23, 6, 2000, 420⟩, ⟨10, 24, 6, 2000, 360⟩], .once 201103262000 420,
        .once 201410251900 360]⟩,
    ⟨["Asia/Qyzylorda"], 360, [.once 201812201800 300]⟩,
    ⟨["Asia/Tomsk"], 360,
      [.yearly 2007 2010 [⟨3, 23, 6, 2000, 420⟩, ⟨10, 24, 6, 2000, 360⟩], .once 201103262000 420,
        .once 201410251900 360, .once 201605282000 420]⟩,
    ⟨["Asia/Rangoon", "Asia/Yangon", "Indian/Cocos"], 390, []⟩,
    ⟨["Antarctica/Davis"], 420,
      [.once 200910171900 300, .once 201003102000 420, .once 201110271900 300,
        .once 201202212000 420]⟩,
    ⟨["Antarctica/Vostok"], 420, [.once 202312171900 300]⟩,
    ⟨["Asia/Bangkok", "Asia/Ho_Chi_Minh", "Asia/Jakarta", "Asia/Phnom_Penh", "Asia/Pontianak",
      "Asia/Saigon", "Asia/Vientiane", "Etc/GMT-7", "Indian/Christmas"], 420, []⟩,
    ⟨["Asia/Hovd"], 420, [.yearly 2015 2016 [⟨3, 22, 5, 1900, 480⟩, ⟨9, 22, 5, 1600, 420⟩]]⟩,
    ⟨["Asia/Krasnoyarsk"], 420,
      [.yearly 2007 2010 [⟨3, 23, 6, 1900, 480⟩, ⟨10, 24, 6, 1900, 420⟩], .once 201103261900 480,
        .once 201410251800 420]⟩,
    ⟨["Asia/Novokuznetsk"], 420,
      [.yearly 2007 2009 [⟨3, 23, 6, 1900, 480⟩, ⟨10, 22, 6, 1900, 420⟩], .once 201010302000 360,
        .once 201103262000 420]⟩,
    ⟨["Antarctica/Casey"], 480,
      [.once 200910171800 660, .once 201003041500 480, .once 201110271800 660,
        .once 201202211700 480, .once 201610211600 660, .once 201803101700 480,
        .once 201810062000 660, .once 201903161600 480, .once 201910031900 660,
        .once 202003071600 480, .once 202010031601 660,
        .yearly 2021 2022 [⟨3, 8, 6, 1300, 480⟩, ⟨10, 1, 6, 1601, 660⟩], .once 202303081600 480]⟩,
    ⟨["Asia/Brunei", "Asia/Chongqing", "Asia/Chungking", "Asia/Harbin", "Asia/Hong_Kong",
      "Asia/Kuala_Lumpur", "Asia/Kuching", "Asia/Macao", "Asia/Macau", "Asia/Makassar",
      "Asia/Manila", "Asia/Shanghai", "Asia/Singapore", "Asia/Ujung_Pandang", "Etc/GMT-8",
      "Hongkong", "PRC", "Singapore"], 480, []⟩,
    ⟨["Asia/Choibalsan", "Asia/Ulaanbaatar", "Asia/Ulan_Bator"], 480,
      [.yearly 2015 2016 [⟨3, 22, 5, 1800, 540⟩, ⟨9, 22, 5, 1500, 480⟩]]⟩,
    ⟨["Asia/Irkutsk"], 480,
      [.yearly 2007 2010 [⟨3, 23, 6, 1800, 540⟩, ⟨10, 24, 6, 1800, 480⟩], .once 201103261800 540,
        .once 201410251700 480]⟩,
    ⟨["Asia/Taipei", "ROC"], 486, [.once 189512311554 480]⟩,
    ⟨["Asia/Chita"], 540,
      [.yearly 2007 2010 [⟨3, 23, 6, 1700, 600⟩, ⟨10, 24, 6, 1700, 540⟩], .once 201103261700 600,
        .once 201410251600 480, .once 201603261800 540]⟩,
    ⟨["Asia/Dili", "Asia/Jayapura", "Asia/Seoul", "Etc/GMT-9", "Pacific/Palau", "ROK"], 540, []⟩,
    ⟨["Asia/Pyongyang"], 540, [.once 201508141500 510, .once 201805041500 540]⟩,
    ⟨["Asia/Tokyo", "Japan"], 559, [.once 190112132045 540]⟩,
    ⟨["Asia/Yakutsk"], 540,
      [.yearly 2007 2010 [⟨3, 23, 6, 1700, 600⟩, ⟨10, 24, 6, 1700, 540⟩], .once 201103261700 600,
        .once 201410251600 540]⟩,
    ⟨["Australia/Perth", "Australia/West"], 540,
      [.yearly 2007 2008 [⟨3, 23, 6, 1800, 480⟩, ⟨10, 22, 6, 1800, 540⟩], .once 200903281800 480]⟩,
    ⟨["Australia/Darwin", "Australia/North"], 570, []⟩,
    ⟨["Australia/Eucla"], 585,
      [.yearly 2007 2008 [⟨3, 23, 6, 1715, 525⟩, ⟨10, 22, 6, 1715, 585⟩], .once 200903281715 525]⟩,
    ⟨["Antarctica/DumontDUrville", "Australia/Brisbane", "Australia/Lindeman",
      "Australia/Queensland", "Etc/GMT-10", "Pacific/Chuuk", "Pacific/Guam",
      "Pacific/Port_Moresby", "Pacific/Saipan", "Pacific/Truk", "Pacific/Yap"], 600, []⟩,
    ⟨["Asia/Khandyga"], 600,
      [.yearly 2007 2010 [⟨3, 23, 6, 1600, 660⟩, ⟨10, 24, 6, 1600, 600⟩], .once 201103261600 660,
        .once 201109121300 600, .once 201410251600 540]⟩,
    ⟨["Asia/Sakhalin"], 600,
      [.yearly 2007 2010 [⟨3, 23, 6, 1600, 660⟩, ⟨10, 24, 6, 1600, 600⟩], .once 201103261600 660,
        .once 201410251500 600, .once 201603261600 660]⟩,
    ⟨["Asia/Vladivostok"], 600,
      [.yearly 2007 2010 [⟨3, 23, 6, 1600, 660⟩, ⟨10, 24, 6, 1600, 600⟩], .once 201103261600 660,
        .once 201410251500 600]⟩,
    ⟨["Pacific/Bougainville"], 600, [.once 201412271600 660]⟩,
    ⟨["Australia/Adelaide", "Australia/Broken_Hill", "Australia/South", "Australia/Yancowinna"],
      630,
      [.once 200703241630 570, .once 200710271630 630,
        .yearly 2008 2037 [⟨3, 31, 6, 1630, 570⟩, ⟨9, 30, 6, 1630, 630⟩]]⟩,
    ⟨["Antarctica/Macquarie"], 660,
      [.once 200703241600 600, .once 200710061600 660,
        .yearly 2008 2009 [⟨4, 1, 6, 1600, 600⟩, ⟨10, 1, 6, 1600, 660⟩],
        .yearly 2011 2037 [⟨3, 31, 6, 1600, 600⟩, ⟨9, 30, 6, 1600, 660⟩]]⟩,
    ⟨["Asia/Magadan"], 660,
      [.yearly 2007 2010 [⟨3, 23, 6, 1500, 720⟩, ⟨10, 24, 6, 1500, 660⟩], .once 201103261500 720,
        .once 201410251400 600, .once 201604231600 660]⟩,
    ⟨["Asia/Srednekolymsk"], 660,
      [.yearly 2007 2010 [⟨3, 23, 6, 1500, 720⟩, ⟨10, 24, 6, 1500, 660⟩], .once 201103261500 720,
        .once 201410251400 660]⟩,
    ⟨["Asia/Ust-Nera"], 660,
      [.yearly 2007 2010 [⟨3, 23, 6, 1500, 720⟩, ⟨10, 24, 6, 1500, 660⟩], .once 201103261500 720,
        .once 201109121200 660, .once 201410251500 600]⟩,
    ⟨["Australia/ACT", "Australia/Canberra", "Australia/Melbourne", "Australia/NSW",
      "Australia/Sydney", "Australia/Victoria"], 660,
      [.once 200703241600 600, .once 200710271600 660,
        .yearly 2008 2037 [⟨3, 31, 6, 1600, 600⟩, ⟨9, 30, 6, 1600, 660⟩]]⟩,
    ⟨["Australia/Currie", "Australia/Hobart", "Australia/Tasmania"], 660,
      [.once 200703241600 600, .once 200710061600 660,
        .yearly 2008 2037 [⟨3, 31, 6, 1600, 600⟩, ⟨9, 30, 6, 1600, 660⟩]]⟩,
    ⟨["Australia/LHI", "Australia/Lord_Howe"], 660,
      [.once 200703241500 630, .once 200710271530 660,
        .yearly 2008 2037 [⟨3, 31, 6, 1500, 630⟩, ⟨9, 30, 6, 1530, 660⟩]]⟩,
    ⟨["Etc/GMT-11", "Pacific/Efate", "Pacific/Guadalcanal", "Pacific/Kosrae", "Pacific/Noumea",
      "Pacific/Pohnpei", "Pacific/Ponape"], 660, []⟩,
    ⟨["Pacific/Norfolk"], 690,
      [.once 201510031430 660, .once 201910051500 720,
        .yearly 2020 2037 [⟨3, 31, 6, 1500, 660⟩, ⟨9, 30, 6, 1500, 720⟩]]⟩,
    ⟨["Asia/Anadyr", "Asia/Kamchatka"], 720,
      [.yearly 2007 2009 [⟨3, 23, 6, 1400, 780⟩, ⟨10, 22, 6, 1400, 720⟩], .once 201010301500 660,
        .once 201103261500 720]⟩,
    ⟨["Etc/GMT-12", "Kwajalein", "Pacific/Funafuti", "Pacific/Kwajalein", "Pacific/Majuro",
      "Pacific/Nauru", "Pacific/Tarawa", "Pacific/Wake", "Pacific/Wallis"], 720, []⟩,
    ⟨["Pacific/Fiji"], 720,
      [.once 200911281400 780, .once 201003271400 720, .once 201010231400 780,
        .once 201103051400 720, .once 201110221400 780,
        .yearly 2012 2013 [⟨1, 15, 6, 1400, 720⟩, ⟨10, 20, 6, 1400, 780⟩], .once 201401181300 720,
        .once 201411011400 780, .yearly 2015 2018 [⟨1, 11, 6, 1400, 720⟩, ⟨10, 30, 6, 1400, 780⟩],
        .once 201901121400 720, .once 201911091400 780, .once 202001111400 720,
        .once 202012191400 780, .once 202101161400 720]⟩,
    ⟨["Antarctica/McMurdo", "Antarctica/South_Pole", "NZ", "Pacific/Auckland"], 780,
      [.once 200703171400 720, .once 200709291400 780,
        .yearly 2008 2037 [⟨3, 31, 6, 1400, 720⟩, ⟨9, 23, 6, 1400, 780⟩]]⟩,
    ⟨["Etc/GMT-13", "Pacific/Enderbury", "Pacific/Kanton"], 780, []⟩,
    ⟨["Pacific/Tongatapu"], 780, [.once 201611051300 840, .once 201701141300 780]⟩,
    ⟨["NZ-CHAT", "Pacific/Chatham"], 825,
      [.once 200703171400 765, .once 200709291400 825,
        .yearly 2008 2037 [⟨3, 31, 6, 1400, 765⟩, ⟨9, 23, 6, 1400, 825⟩]]⟩,
    ⟨["Etc/GMT-14", "Pacific/Kiritimati"], 840, []⟩
  ]

end Signpost.Zone
