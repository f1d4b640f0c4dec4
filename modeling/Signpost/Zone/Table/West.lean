import Signpost.Zone.History

/-!
# Zones behind universal time

Zones that were behind universal time at the start of 2007, by their offsets then, each with its
history since. Zones that have had one history stand together.
-/

namespace Signpost.Zone

/-- Zones that were behind universal time at the start of 2007. -/
def west : List History :=
  [
    ⟨["Etc/GMT+12"], -720, []⟩,
    ⟨["Etc/GMT+11", "Pacific/Midway", "Pacific/Niue", "Pacific/Pago_Pago", "Pacific/Samoa",
      "US/Samoa"], -660, []⟩,
    ⟨["Pacific/Apia"], -660,
      [.once 201009261100 (-600), .once 201104021400 (-660), .once 201109241400 (-600),
        .once 201112301000 840, .yearly 2012 2020 [⟨3, 31, 6, 1400, 780⟩, ⟨9, 23, 6, 1400, 840⟩],
        .once 202104031400 780]⟩,
    ⟨["Pacific/Fakaofo"], -660, [.once 201112301100 780]⟩,
    ⟨["America/Adak", "America/Atka", "US/Aleutian"], -600,
      [.yearly 2007 2037 [⟨3, 8, 0, 1200, -540⟩, ⟨11, 1, 0, 1100, -600⟩]]⟩,
    ⟨["Etc/GMT+10", "HST", "Pacific/Honolulu", "Pacific/Johnston", "Pacific/Rarotonga",
      "Pacific/Tahiti", "US/Hawaii"], -600, []⟩,
    ⟨["Pacific/Marquesas"], -570, []⟩,
    ⟨["America/Anchorage", "America/Juneau", "America/Nome", "America/Sitka", "America/Yakutat",
      "US/Alaska"], -540, [.yearly 2007 2037 [⟨3, 8, 0, 1100, -480⟩, ⟨11, 1, 0, 1000, -540⟩]]⟩,
    ⟨["Etc/GMT+9", "Pacific/Gambier"], -540, []⟩,
    ⟨["America/Dawson", "America/Whitehorse", "Canada/Yukon"], -480,
      [.yearly 2007 2019 [⟨3, 8, 0, 1000, -420⟩, ⟨11, 1, 0, 900, -480⟩],
        .once 202003081000 (-420)]⟩,
    ⟨["America/Ensenada", "America/Santa_Isabel", "America/Tijuana", "Mexico/BajaNorte"], -480,
      [.yearly 2007 2009 [⟨4, 1, 0, 1000, -420⟩, ⟨10, 22, 0, 900, -480⟩],
        .yearly 2010 2037 [⟨3, 8, 0, 1000, -420⟩, ⟨11, 1, 0, 900, -480⟩]]⟩,
    ⟨["America/Fort_Nelson"], -480,
      [.yearly 2007 2014 [⟨3, 8, 0, 1000, -420⟩, ⟨11, 1, 0, 900, -480⟩],
        .once 201503081000 (-420)]⟩,
    ⟨["America/Los_Angeles", "America/Vancouver", "Canada/Pacific", "PST8PDT", "US/Pacific"], -480,
      [.yearly 2007 2037 [⟨3, 8, 0, 1000, -420⟩, ⟨11, 1, 0, 900, -480⟩]]⟩,
    ⟨["America/Metlakatla"], -480,
      [.once 201511011000 (-540),
        .yearly 2016 2017 [⟨3, 8, 0, 1100, -480⟩, ⟨11, 1, 0, 1000, -540⟩],
        .once 201803111100 (-480), .once 201901201000 (-540),
        .yearly 2019 2037 [⟨3, 8, 0, 1100, -480⟩, ⟨11, 1, 0, 1000, -540⟩]]⟩,
    ⟨["Etc/GMT+8", "Pacific/Pitcairn"], -480, []⟩,
    ⟨["America/Bahia_Banderas"], -420,
      [.yearly 2007 2009 [⟨4, 1, 0, 900, -360⟩, ⟨10, 22, 0, 800, -420⟩],
        .once 201004040900 (-300), .once 201010310700 (-360),
        .yearly 2011 2022 [⟨4, 1, 0, 800, -300⟩, ⟨10, 25, 0, 700, -360⟩]]⟩,
    ⟨["America/Boise", "America/Cambridge_Bay", "America/Denver", "America/Edmonton",
      "America/Inuvik", "America/Shiprock", "America/Yellowknife", "Canada/Mountain", "MST7MDT",
      "Navajo", "US/Mountain"], -420,
      [.yearly 2007 2037 [⟨3, 8, 0, 900, -360⟩, ⟨11, 1, 0, 800, -420⟩]]⟩,
    ⟨["America/Chihuahua"], -420,
      [.yearly 2007 2021 [⟨4, 1, 0, 900, -360⟩, ⟨10, 25, 0, 800, -420⟩],
        .once 202204030900 (-360)]⟩,
    ⟨["America/Ciudad_Juarez"], -420,
      [.yearly 2007 2009 [⟨4, 1, 0, 900, -360⟩, ⟨10, 22, 0, 800, -420⟩],
        .yearly 2010 2021 [⟨3, 8, 0, 900, -360⟩, ⟨11, 1, 0, 800, -420⟩],
        .once 202203130900 (-360), .once 202211300600 (-420),
        .yearly 2023 2037 [⟨3, 8, 0, 900, -360⟩, ⟨11, 1, 0, 800, -420⟩]]⟩,
    ⟨["America/Creston", "America/Dawson_Creek", "America/Hermosillo", "America/Phoenix",
      "Etc/GMT+7", "MST", "US/Arizona"], -420, []⟩,
    ⟨["America/Mazatlan", "Mexico/BajaSur"], -420,
      [.yearly 2007 2022 [⟨4, 1, 0, 900, -360⟩, ⟨10, 25, 0, 800, -420⟩]]⟩,
    ⟨["America/North_Dakota/Beulah"], -420,
      [.yearly 2007 2009 [⟨3, 8, 0, 900, -360⟩, ⟨11, 1, 0, 800, -420⟩], .once 201003140900 (-360),
        .yearly 2011 2037 [⟨3, 8, 0, 800, -300⟩, ⟨11, 1, 0, 700, -360⟩]]⟩,
    ⟨["America/Ojinaga"], -420,
      [.yearly 2007 2009 [⟨4, 1, 0, 900, -360⟩, ⟨10, 22, 0, 800, -420⟩],
        .yearly 2010 2021 [⟨3, 8, 0, 900, -360⟩, ⟨11, 1, 0, 800, -420⟩],
        .once 202203130900 (-360),
        .yearly 2023 2037 [⟨3, 8, 0, 800, -300⟩, ⟨11, 1, 0, 700, -360⟩]]⟩,
    ⟨["America/Belize", "America/Costa_Rica", "America/El_Salvador", "America/Guatemala",
      "America/Managua", "America/Regina", "America/Swift_Current", "America/Tegucigalpa",
      "Canada/Saskatchewan", "Etc/GMT+6", "Pacific/Galapagos"], -360, []⟩,
    ⟨["America/Cancun"], -360,
      [.yearly 2007 2014 [⟨4, 1, 0, 800, -300⟩, ⟨10, 25, 0, 700, -360⟩],
        .once 201502010800 (-300)]⟩,
    ⟨["America/Chicago", "America/Indiana/Knox", "America/Indiana/Tell_City", "America/Knox_IN",
      "America/Menominee", "America/North_Dakota/Center", "America/North_Dakota/New_Salem",
      "America/Rainy_River", "America/Rankin_Inlet", "America/Winnipeg", "CST6CDT",
      "Canada/Central", "US/Central", "US/Indiana-Starke"], -360,
      [.yearly 2007 2037 [⟨3, 8, 0, 800, -300⟩, ⟨11, 1, 0, 700, -360⟩]]⟩,
    ⟨["America/Indiana/Petersburg", "America/Indiana/Vincennes"], -360,
      [.once 200703110800 (-300), .yearly 2008 2037 [⟨3, 8, 0, 700, -240⟩, ⟨11, 1, 0, 600, -300⟩]]⟩,
    ⟨["America/Indiana/Winamac"], -360,
      [.once 200703110800 (-240), .once 200711040600 (-300),
        .yearly 2008 2037 [⟨3, 8, 0, 700, -240⟩, ⟨11, 1, 0, 600, -300⟩]]⟩,
    ⟨["America/Matamoros"], -360,
      [.yearly 2007 2009 [⟨4, 1, 0, 800, -300⟩, ⟨10, 22, 0, 700, -360⟩],
        .yearly 2010 2037 [⟨3, 8, 0, 800, -300⟩, ⟨11, 1, 0, 700, -360⟩]]⟩,
    ⟨["America/Merida", "America/Mexico_City", "America/Monterrey", "Mexico/General"], -360,
      [.yearly 2007 2022 [⟨4, 1, 0, 800, -300⟩, ⟨10, 25, 0, 700, -360⟩]]⟩,
    ⟨["America/Atikokan", "America/Bogota", "America/Cayman", "America/Coral_Harbour",
      "America/Guayaquil", "America/Jamaica", "America/Lima", "America/Panama", "EST",
      "Etc/GMT+5", "Jamaica"], -300, []⟩,
    ⟨["America/Detroit", "America/Fort_Wayne", "America/Indiana/Indianapolis",
      "America/Indiana/Marengo", "America/Indiana/Vevay", "America/Indianapolis",
      "America/Iqaluit", "America/Kentucky/Louisville", "America/Kentucky/Monticello",
      "America/Louisville", "America/Montreal", "America/Nassau", "America/Nipigon",
      "America/Pangnirtung", "America/Thunder_Bay", "America/Toronto", "Canada/Eastern",
      "EST5EDT", "US/East-Indiana", "US/Michigan"], -300,
      [.yearly 2007 2037 [⟨3, 8, 0, 700, -240⟩, ⟨11, 1, 0, 600, -300⟩]]⟩,
    ⟨["America/Eirunepe", "America/Porto_Acre", "America/Rio_Branco", "Brazil/Acre"], -300,
      [.once 200806240500 (-240), .once 201311100400 (-300)]⟩,
    ⟨["America/Grand_Turk"], -300,
      [.yearly 2007 2014 [⟨3, 8, 0, 700, -240⟩, ⟨11, 1, 0, 600, -300⟩], .once 201503080700 (-240),
        .once 201811040600 (-300),
        .yearly 2019 2037 [⟨3, 8, 0, 700, -240⟩, ⟨11, 1, 0, 600, -300⟩]]⟩,
    ⟨["America/Havana", "Cuba"], -300,
      [.yearly 2007 2008 [⟨3, 10, 0, 500, -240⟩, ⟨10, 22, 0, 500, -300⟩],
        .yearly 2009 2010 [⟨3, 8, 0, 500, -240⟩, ⟨10, 25, 0, 500, -300⟩],
        .once 201103200500 (-240), .once 201111130500 (-300), .once 201204010500 (-240),
        .once 201211040500 (-300),
        .yearly 2013 2037 [⟨3, 8, 0, 500, -240⟩, ⟨11, 1, 0, 500, -300⟩]]⟩,
    ⟨["America/Port-au-Prince"], -300,
      [.yearly 2012 2015 [⟨3, 8, 0, 700, -240⟩, ⟨11, 1, 0, 600, -300⟩],
        .yearly 2017 2037 [⟨3, 8, 0, 700, -240⟩, ⟨11, 1, 0, 600, -300⟩]]⟩,
    ⟨["America/Resolute"], -300,
      [.once 200711040700 (-360), .yearly 2008 2037 [⟨3, 8, 0, 800, -300⟩, ⟨11, 1, 0, 700, -360⟩]]⟩,
    ⟨["Chile/EasterIsland", "Pacific/Easter"], -300,
      [.once 200703110300 (-360), .once 200710140400 (-300), .once 200803300300 (-360),
        .once 200810120400 (-300), .once 200903150300 (-360), .once 200910110400 (-300),
        .once 201004040300 (-360), .once 201010100400 (-300), .once 201105080300 (-360),
        .once 201108210400 (-300),
        .yearly 2012 2014 [⟨4, 24, 0, 300, -360⟩, ⟨9, 2, 0, 400, -300⟩],
        .yearly 2016 2018 [⟨5, 9, 0, 300, -360⟩, ⟨8, 8, 0, 400, -300⟩],
        .yearly 2019 2022 [⟨4, 1, 0, 300, -360⟩, ⟨9, 5, 0, 400, -300⟩],
        .yearly 2023 2037 [⟨4, 2, 0, 300, -360⟩, ⟨9, 2, 0, 400, -300⟩]]⟩,
    ⟨["America/New_York", "US/Eastern"], -296,
      [.once 190112132045 (-300), .yearly 2007 2037 [⟨3, 8, 0, 700, -240⟩, ⟨11, 1, 0, 600, -300⟩]]⟩,
    ⟨["America/Anguilla", "America/Antigua", "America/Aruba", "America/Barbados",
      "America/Blanc-Sablon", "America/Boa_Vista", "America/Curacao", "America/Dominica",
      "America/Grenada", "America/Guadeloupe", "America/Guyana", "America/Kralendijk",
      "America/La_Paz", "America/Lower_Princes", "America/Manaus", "America/Marigot",
      "America/Martinique", "America/Montserrat", "America/Port_of_Spain", "America/Porto_Velho",
      "America/Puerto_Rico", "America/Santo_Domingo", "America/St_Barthelemy", "America/St_Kitts",
      "America/St_Lucia", "America/St_Thomas", "America/St_Vincent", "America/Tortola",
      "America/Virgin", "Brazil/West", "Etc/GMT+4"], -240, []⟩,
    ⟨["America/Caracas"], -240, [.once 200712090700 (-270), .once 201605010700 (-240)]⟩,
    ⟨["America/Glace_Bay", "America/Halifax", "America/Moncton", "America/Thule",
      "Atlantic/Bermuda", "Canada/Atlantic"], -240,
      [.yearly 2007 2037 [⟨3, 8, 0, 600, -180⟩, ⟨11, 1, 0, 500, -240⟩]]⟩,
    ⟨["America/Goose_Bay"], -240,
      [.yearly 2007 2010 [⟨3, 8, 0, 401, -180⟩, ⟨11, 1, 0, 301, -240⟩], .once 201103130401 (-180),
        .once 201111060500 (-240),
        .yearly 2012 2037 [⟨3, 8, 0, 600, -180⟩, ⟨11, 1, 0, 500, -240⟩]]⟩,
    ⟨["America/Santarem"], -240, [.once 200806240400 (-180)]⟩,
    ⟨["America/St_Johns", "Canada/Newfoundland"], -210,
      [.yearly 2007 2010 [⟨3, 8, 0, 331, -150⟩, ⟨11, 1, 0, 231, -210⟩], .once 201103130331 (-150),
        .once 201111060430 (-210),
        .yearly 2012 2037 [⟨3, 8, 0, 530, -150⟩, ⟨11, 1, 0, 430, -210⟩]]⟩,
    ⟨["America/Araguaina"], -180, [.once 201210210300 (-120), .once 201302170200 (-180)]⟩,
    ⟨["America/Argentina/Buenos_Aires", "America/Argentina/Cordoba", "America/Argentina/Tucuman",
      "America/Buenos_Aires", "America/Cordoba", "America/Rosario"], -180,
      [.once 200712300300 (-120), .once 200803160200 (-180), .once 200810190300 (-120),
        .once 200903150200 (-180)]⟩,
    ⟨["America/Argentina/Catamarca", "America/Argentina/ComodRivadavia",
      "America/Argentina/Jujuy", "America/Argentina/La_Rioja", "America/Argentina/Mendoza",
      "America/Argentina/Rio_Gallegos", "America/Argentina/Salta", "America/Argentina/San_Juan",
      "America/Argentina/Ushuaia", "America/Catamarca", "America/Jujuy", "America/Mendoza"], -180,
      [.once 200712300300 (-120), .once 200803160200 (-180)]⟩,
    ⟨["America/Argentina/San_Luis"], -180,
      [.once 200712300300 (-120), .once 200801210200 (-180),
        .yearly 2008 2009 [⟨3, 8, 0, 300, -240⟩, ⟨10, 8, 0, 400, -180⟩]]⟩,
    ⟨["America/Asuncion"], -180,
      [.yearly 2007 2009 [⟨3, 8, 0, 300, -240⟩, ⟨10, 15, 0, 400, -180⟩],
        .yearly 2010 2012 [⟨4, 8, 0, 300, -240⟩, ⟨10, 1, 0, 400, -180⟩],
        .yearly 2013 2024 [⟨3, 22, 0, 300, -240⟩, ⟨10, 1, 0, 400, -180⟩]]⟩,
    ⟨["America/Bahia"], -180, [.once 201110160300 (-120), .once 201202260200 (-180)]⟩,
    ⟨["America/Belem", "America/Cayenne", "America/Fortaleza", "America/Maceio",
      "America/Paramaribo", "America/Recife", "Antarctica/Rothera", "Etc/GMT+3"], -180, []⟩,
    ⟨["America/Campo_Grande", "America/Cuiaba"], -180,
      [.once 200702250300 (-240), .once 200710140400 (-180),
        .yearly 2008 2011 [⟨2, 15, 0, 300, -240⟩, ⟨10, 15, 0, 400, -180⟩],
        .once 201202260300 (-240), .once 201210210400 (-180),
        .yearly 2013 2017 [⟨2, 16, 0, 300, -240⟩, ⟨10, 15, 0, 400, -180⟩],
        .once 201802180300 (-240), .once 201811040400 (-180), .once 201902170300 (-240)]⟩,
    ⟨["America/Coyhaique"], -180,
      [.once 200703110300 (-240), .once 200710140400 (-180), .once 200803300300 (-240),
        .once 200810120400 (-180), .once 200903150300 (-240), .once 200910110400 (-180),
        .once 201004040300 (-240), .once 201010100400 (-180), .once 201105080300 (-240),
        .once 201108210400 (-180),
        .yearly 2012 2014 [⟨4, 24, 0, 300, -240⟩, ⟨9, 2, 0, 400, -180⟩],
        .yearly 2016 2018 [⟨5, 9, 0, 300, -240⟩, ⟨8, 8, 0, 400, -180⟩],
        .yearly 2019 2022 [⟨4, 1, 0, 300, -240⟩, ⟨9, 5, 0, 400, -180⟩],
        .yearly 2023 2024 [⟨4, 1, 0, 300, -240⟩, ⟨9, 2, 0, 400, -180⟩]]⟩,
    ⟨["America/Godthab", "America/Nuuk"], -180,
      [.yearly 2007 2022 [⟨3, 25, 0, 100, -120⟩, ⟨10, 25, 0, 100, -180⟩],
        .once 202303260100 (-120),
        .yearly 2024 2037 [⟨3, 25, 0, 100, -60⟩, ⟨10, 25, 0, 100, -120⟩]]⟩,
    ⟨["America/Miquelon"], -180, [.yearly 2007 2037 [⟨3, 8, 0, 500, -120⟩, ⟨11, 1, 0, 400, -180⟩]]⟩,
    ⟨["America/Punta_Arenas", "Antarctica/Palmer"], -180,
      [.once 200703110300 (-240), .once 200710140400 (-180), .once 200803300300 (-240),
        .once 200810120400 (-180), .once 200903150300 (-240), .once 200910110400 (-180),
        .once 201004040300 (-240), .once 201010100400 (-180), .once 201105080300 (-240),
        .once 201108210400 (-180),
        .yearly 2012 2014 [⟨4, 24, 0, 300, -240⟩, ⟨9, 2, 0, 400, -180⟩],
        .once 201605150300 (-240), .once 201608140400 (-180)]⟩,
    ⟨["America/Santiago", "Chile/Continental"], -180,
      [.once 200703110300 (-240), .once 200710140400 (-180), .once 200803300300 (-240),
        .once 200810120400 (-180), .once 200903150300 (-240), .once 200910110400 (-180),
        .once 201004040300 (-240), .once 201010100400 (-180), .once 201105080300 (-240),
        .once 201108210400 (-180),
        .yearly 2012 2014 [⟨4, 24, 0, 300, -240⟩, ⟨9, 2, 0, 400, -180⟩],
        .yearly 2016 2018 [⟨5, 9, 0, 300, -240⟩, ⟨8, 8, 0, 400, -180⟩],
        .yearly 2019 2022 [⟨4, 1, 0, 300, -240⟩, ⟨9, 5, 0, 400, -180⟩],
        .yearly 2023 2037 [⟨4, 2, 0, 300, -240⟩, ⟨9, 2, 0, 400, -180⟩]]⟩,
    ⟨["Atlantic/Stanley"], -180, [.yearly 2007 2010 [⟨4, 15, 0, 500, -240⟩, ⟨9, 1, 0, 600, -180⟩]]⟩,
    ⟨["America/Montevideo"], -120,
      [.yearly 2007 2014 [⟨3, 8, 0, 400, -180⟩, ⟨10, 1, 0, 500, -120⟩], .once 201503080400 (-180)]⟩,
    ⟨["America/Noronha", "Atlantic/South_Georgia", "Brazil/DeNoronha", "Etc/GMT+2"], -120, []⟩,
    ⟨["America/Sao_Paulo", "Brazil/East"], -120,
      [.once 200702250200 (-180), .once 200710140300 (-120),
        .yearly 2008 2011 [⟨2, 15, 0, 200, -180⟩, ⟨10, 15, 0, 300, -120⟩],
        .once 201202260200 (-180), .once 201210210300 (-120),
        .yearly 2013 2017 [⟨2, 16, 0, 200, -180⟩, ⟨10, 15, 0, 300, -120⟩],
        .once 201802180200 (-180), .once 201811040300 (-120), .once 201902170200 (-180)]⟩,
    ⟨["America/Scoresbysund"], -60,
      [.yearly 2007 2023 [⟨3, 25, 0, 100, 0⟩, ⟨10, 25, 0, 100, -60⟩], .once 202410270100 (-120),
        .yearly 2025 2037 [⟨3, 25, 0, 100, -60⟩, ⟨10, 25, 0, 100, -120⟩]]⟩,
    ⟨["Atlantic/Azores"], -60, [.yearly 2007 2037 [⟨3, 25, 0, 100, 0⟩, ⟨10, 25, 0, 100, -60⟩]]⟩,
    ⟨["Atlantic/Cape_Verde", "Etc/GMT+1"], -60, []⟩
  ]

end Signpost.Zone
