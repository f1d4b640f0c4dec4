import Signpost.Zone.History

/-!
# Zones up to three hours ahead

Zones that were up to three hours ahead of universal time at the start of 2007, by their offsets
then, each with its history since. Zones that have had one history stand together.
-/

namespace Signpost.Zone

/-- Zones that were up to three hours ahead of universal time at the start of 2007. -/
def middle : List History :=
  [
    ⟨["Africa/Abidjan", "Africa/Accra", "Africa/Bamako", "Africa/Banjul", "Africa/Bissau",
      "Africa/Conakry", "Africa/Dakar", "Africa/Freetown", "Africa/Lome", "Africa/Monrovia",
      "Africa/Nouakchott", "Africa/Ouagadougou", "Africa/Timbuktu", "America/Danmarkshavn",
      "Atlantic/Reykjavik", "Atlantic/St_Helena", "Etc/GMT", "Etc/GMT+0", "Etc/GMT-0", "Etc/GMT0",
      "Etc/Greenwich", "Etc/UCT", "Etc/UTC", "Etc/Universal", "Etc/Zulu", "GMT", "GMT+0", "GMT-0",
      "GMT0", "Greenwich", "Iceland", "UCT", "UTC", "Universal", "Zulu"], 0, []⟩,
    ⟨["Africa/Casablanca", "Africa/El_Aaiun"], 0,
      [.once 200806010000 60, .once 200808312300 0, .once 200906010000 60, .once 200908202300 0,
        .once 201005020000 60, .once 201008072300 0, .once 201104030000 60, .once 201107302300 0,
        .once 201204290200 60, .once 201207200200 0, .once 201208200200 60, .once 201209300200 0,
        .once 201304280200 60, .once 201307070200 0, .once 201308100200 60, .once 201310270200 0,
        .once 201403300200 60, .once 201406280200 0, .once 201408020200 60, .once 201410260200 0,
        .once 201503290200 60, .once 201506140200 0, .once 201507190200 60, .once 201510250200 0,
        .once 201603270200 60, .once 201606050200 0, .once 201607100200 60, .once 201610300200 0,
        .once 201703260200 60, .once 201705210200 0, .once 201707020200 60, .once 201710290200 0,
        .once 201803250200 60, .once 201805130200 0, .once 201806170200 60, .once 201905050200 0,
        .once 201906090200 60, .once 202004190200 0, .once 202005310200 60, .once 202104110200 0,
        .once 202105160200 60, .once 202203270200 0, .once 202205080200 60, .once 202303190200 0,
        .once 202304230200 60, .once 202403100200 0, .once 202404140200 60, .once 202502230200 0,
        .once 202504060200 60, .once 202602150200 0, .once 202603220200 60, .once 202609200100 0]⟩,
    ⟨["Africa/Sao_Tome"], 0, [.once 201801010100 60, .once 201901010100 0]⟩,
    ⟨["Antarctica/Troll"], 0, [.yearly 2007 2037 [⟨3, 25, 0, 100, 120⟩, ⟨10, 25, 0, 100, 0⟩]]⟩,
    ⟨["Atlantic/Canary", "Atlantic/Faeroe", "Atlantic/Faroe", "Atlantic/Madeira", "Eire",
      "Europe/Dublin", "Europe/Guernsey", "Europe/Isle_of_Man", "Europe/Jersey", "Europe/Lisbon",
      "Portugal", "WET"], 0, [.yearly 2007 2037 [⟨3, 25, 0, 100, 60⟩, ⟨10, 25, 0, 100, 0⟩]]⟩,
    ⟨["Europe/Belfast", "Europe/London", "GB", "GB-Eire"], 0,
      [.once 196810270000 60, .once 197110310200 0,
        .yearly 2007 2037 [⟨3, 25, 0, 100, 60⟩, ⟨10, 25, 0, 100, 0⟩]]⟩,
    ⟨["Africa/Algiers", "Africa/Bangui", "Africa/Brazzaville", "Africa/Douala", "Africa/Kinshasa",
      "Africa/Lagos", "Africa/Libreville", "Africa/Luanda", "Africa/Malabo", "Africa/Ndjamena",
      "Africa/Niamey", "Africa/Porto-Novo", "Etc/GMT-1"], 60, []⟩,
    ⟨["Africa/Ceuta", "Arctic/Longyearbyen", "Atlantic/Jan_Mayen", "CET", "Europe/Amsterdam",
      "Europe/Andorra", "Europe/Belgrade", "Europe/Berlin", "Europe/Bratislava",
      "Europe/Brussels", "Europe/Budapest", "Europe/Busingen", "Europe/Copenhagen",
      "Europe/Gibraltar", "Europe/Ljubljana", "Europe/Luxembourg", "Europe/Madrid",
      "Europe/Malta", "Europe/Monaco", "Europe/Oslo", "Europe/Paris", "Europe/Podgorica",
      "Europe/Prague", "Europe/Rome", "Europe/San_Marino", "Europe/Sarajevo", "Europe/Skopje",
      "Europe/Stockholm", "Europe/Tirane", "Europe/Vaduz", "Europe/Vatican", "Europe/Vienna",
      "Europe/Warsaw", "Europe/Zagreb", "Europe/Zurich", "MET", "Poland"], 60,
      [.yearly 2007 2037 [⟨3, 25, 0, 100, 120⟩, ⟨10, 25, 0, 100, 60⟩]]⟩,
    ⟨["Africa/Tunis"], 60, [.yearly 2007 2008 [⟨3, 25, 0, 100, 120⟩, ⟨10, 22, 0, 100, 60⟩]]⟩,
    ⟨["Africa/Blantyre", "Africa/Bujumbura", "Africa/Gaborone", "Africa/Harare",
      "Africa/Johannesburg", "Africa/Kigali", "Africa/Lubumbashi", "Africa/Lusaka",
      "Africa/Maputo", "Africa/Maseru", "Africa/Mbabane", "Etc/GMT-2"], 120, []⟩,
    ⟨["Africa/Cairo", "Egypt"], 120,
      [.once 200704262200 180, .once 200709062100 120, .once 200804242200 180,
        .once 200808282100 120, .once 200904232200 180, .once 200908202100 120,
        .once 201004292200 180, .once 201008102100 120, .once 201009092200 180,
        .once 201009302100 120, .once 201405152200 180, .once 201406262100 120,
        .once 201407312200 180, .once 201409252100 120,
        .yearly 2023 2037 [⟨4, 23, 4, 2200, 180⟩, ⟨10, 25, 4, 2100, 120⟩]]⟩,
    ⟨["Africa/Tripoli", "Libya"], 120, [.once 201211100000 60, .once 201303290000 120]⟩,
    ⟨["Africa/Windhoek"], 120, [.yearly 2007 2017 [⟨4, 1, 0, 0, 60⟩, ⟨9, 1, 0, 100, 120⟩]]⟩,
    ⟨["Asia/Amman"], 120,
      [.yearly 2007 2011 [⟨3, 25, 4, 2200, 180⟩, ⟨10, 25, 4, 2200, 120⟩], .once 201203292200 180,
        .once 201312192100 120, .yearly 2014 2021 [⟨3, 25, 4, 2200, 180⟩, ⟨10, 24, 4, 2200, 120⟩],
        .once 202202242200 180]⟩,
    ⟨["Asia/Beirut"], 120, [.yearly 2007 2037 [⟨3, 24, 6, 2200, 180⟩, ⟨10, 24, 6, 2100, 120⟩]]⟩,
    ⟨["Asia/Damascus"], 120,
      [.once 200703292200 180, .once 200711012100 120, .once 200804032200 180,
        .once 200810312100 120, .yearly 2009 2015 [⟨3, 26, 4, 2200, 180⟩, ⟨10, 24, 4, 2100, 120⟩],
        .yearly 2016 2021 [⟨3, 24, 4, 2200, 180⟩, ⟨10, 23, 4, 2100, 120⟩], .once 202203242200 180]⟩,
    ⟨["Asia/Famagusta"], 120,
      [.yearly 2007 2015 [⟨3, 25, 0, 100, 180⟩, ⟨10, 25, 0, 100, 120⟩], .once 201603270100 180,
        .once 201710290100 120, .yearly 2018 2037 [⟨3, 25, 0, 100, 180⟩, ⟨10, 25, 0, 100, 120⟩]]⟩,
    ⟨["Asia/Gaza"], 120,
      [.once 200703312200 180, .once 200709122300 120, .once 200803272200 180,
        .once 200808282100 120, .once 200903262200 180, .once 200909032200 120,
        .once 201003262201 180, .once 201008102100 120, .once 201103312201 180,
        .once 201107312100 120, .once 201203292200 180, .once 201209202200 120,
        .once 201303282200 180, .once 201309262100 120, .once 201403272200 180,
        .once 201410232100 120, .once 201503272200 180, .once 201510222200 120,
        .yearly 2016 2018 [⟨3, 22, 5, 2300, 180⟩, ⟨10, 22, 5, 2200, 120⟩], .once 201903282200 180,
        .once 201910252100 120, .once 202003272200 180, .once 202010232200 120,
        .once 202103262200 180, .once 202110282200 120, .once 202203262200 180,
        .once 202210282300 120, .once 202304290000 180, .once 202310272300 120,
        .once 202404200000 180, .once 202410252300 120, .once 202504120000 180,
        .once 202510242300 120, .yearly 2026 2035 [⟨3, 24, 6, 0, 180⟩, ⟨10, 23, 5, 2300, 120⟩],
        .once 203603290000 180, .once 203610172300 120, .once 203703280000 180,
        .once 203710092300 120]⟩,
    ⟨["Asia/Hebron"], 120,
      [.once 200703312200 180, .once 200709122300 120, .once 200803272200 180,
        .once 200808312100 120, .once 200903262200 180, .once 200909032200 120,
        .once 201003252200 180, .once 201008102100 120, .once 201103312201 180,
        .once 201107312100 120, .once 201108292200 180, .once 201109292100 120,
        .once 201203292200 180, .once 201209202200 120, .once 201303282200 180,
        .once 201309262100 120, .once 201403272200 180, .once 201410232100 120,
        .once 201503272200 180, .once 201510222200 120,
        .yearly 2016 2018 [⟨3, 22, 5, 2300, 180⟩, ⟨10, 22, 5, 2200, 120⟩], .once 201903282200 180,
        .once 201910252100 120, .once 202003272200 180, .once 202010232200 120,
        .once 202103262200 180, .once 202110282200 120, .once 202203262200 180,
        .once 202210282300 120, .once 202304290000 180, .once 202310272300 120,
        .once 202404200000 180, .once 202410252300 120, .once 202504120000 180,
        .once 202510242300 120, .yearly 2026 2035 [⟨3, 24, 6, 0, 180⟩, ⟨10, 23, 5, 2300, 120⟩],
        .once 203603290000 180, .once 203610172300 120, .once 203703280000 180,
        .once 203710092300 120]⟩,
    ⟨["Asia/Istanbul", "Europe/Istanbul", "Turkey"], 120,
      [.yearly 2007 2010 [⟨3, 25, 0, 100, 180⟩, ⟨10, 25, 0, 100, 120⟩], .once 201103280100 180,
        .once 201110300100 120, .yearly 2012 2013 [⟨3, 25, 0, 100, 180⟩, ⟨10, 22, 0, 100, 120⟩],
        .once 201403310100 180, .once 201410260100 120, .once 201503290100 180,
        .once 201511080100 120, .once 201603270100 180]⟩,
    ⟨["Asia/Jerusalem", "Asia/Tel_Aviv", "Israel"], 120,
      [.once 200703300000 180, .once 200709152300 120, .once 200803280000 180,
        .once 200810042300 120, .once 200903270000 180, .once 200909262300 120,
        .once 201003260000 180, .once 201009112300 120, .once 201104010000 180,
        .once 201110012300 120, .once 201203300000 180, .once 201209222300 120,
        .yearly 2013 2037 [⟨3, 23, 5, 0, 180⟩, ⟨10, 24, 6, 2300, 120⟩]]⟩,
    ⟨["Asia/Nicosia", "EET", "Europe/Athens", "Europe/Bucharest", "Europe/Helsinki",
      "Europe/Kiev", "Europe/Kyiv", "Europe/Mariehamn", "Europe/Nicosia", "Europe/Riga",
      "Europe/Sofia", "Europe/Tallinn", "Europe/Uzhgorod", "Europe/Vilnius", "Europe/Zaporozhye"],
      120, [.yearly 2007 2037 [⟨3, 25, 0, 100, 180⟩, ⟨10, 25, 0, 100, 120⟩]]⟩,
    ⟨["Europe/Chisinau", "Europe/Tiraspol"], 120,
      [.yearly 2007 2021 [⟨3, 25, 0, 0, 180⟩, ⟨10, 25, 0, 0, 120⟩],
        .yearly 2022 2037 [⟨3, 25, 0, 100, 180⟩, ⟨10, 25, 0, 100, 120⟩]]⟩,
    ⟨["Europe/Kaliningrad"], 120,
      [.yearly 2007 2010 [⟨3, 25, 0, 0, 180⟩, ⟨10, 25, 0, 0, 120⟩], .once 201103270000 180,
        .once 201410252300 120]⟩,
    ⟨["Europe/Minsk"], 120,
      [.yearly 2007 2010 [⟨3, 25, 0, 0, 180⟩, ⟨10, 25, 0, 0, 120⟩], .once 201103270000 180]⟩,
    ⟨["Europe/Simferopol"], 120,
      [.yearly 2007 2013 [⟨3, 25, 0, 100, 180⟩, ⟨10, 25, 0, 100, 120⟩], .once 201403300000 240,
        .once 201410252200 180]⟩,
    ⟨["Africa/Addis_Ababa", "Africa/Asmara", "Africa/Asmera", "Africa/Dar_es_Salaam",
      "Africa/Djibouti", "Africa/Kampala", "Africa/Mogadishu", "Africa/Nairobi",
      "Antarctica/Syowa", "Asia/Aden", "Asia/Bahrain", "Asia/Kuwait", "Asia/Qatar", "Asia/Riyadh",
      "Etc/GMT-3", "Indian/Antananarivo", "Indian/Comoro", "Indian/Mayotte"], 180, []⟩,
    ⟨["Africa/Juba"], 180, [.once 202101312100 120]⟩,
    ⟨["Africa/Khartoum"], 180, [.once 201710312100 120]⟩,
    ⟨["Asia/Baghdad"], 180, [.once 200704010000 240, .once 200710010000 180]⟩,
    ⟨["Europe/Astrakhan", "Europe/Ulyanovsk"], 180,
      [.yearly 2007 2010 [⟨3, 23, 6, 2300, 240⟩, ⟨10, 24, 6, 2300, 180⟩], .once 201103262300 240,
        .once 201410252200 180, .once 201603262300 240]⟩,
    ⟨["Europe/Kirov", "Europe/Moscow", "W-SU"], 180,
      [.yearly 2007 2010 [⟨3, 23, 6, 2300, 240⟩, ⟨10, 24, 6, 2300, 180⟩], .once 201103262300 240,
        .once 201410252200 180]⟩,
    ⟨["Europe/Saratov"], 180,
      [.yearly 2007 2010 [⟨3, 23, 6, 2300, 240⟩, ⟨10, 24, 6, 2300, 180⟩], .once 201103262300 240,
        .once 201410252200 180, .once 201612032300 240]⟩,
    ⟨["Europe/Volgograd"], 180,
      [.yearly 2007 2010 [⟨3, 23, 6, 2300, 240⟩, ⟨10, 24, 6, 2300, 180⟩], .once 201103262300 240,
        .once 201410252200 180, .once 201810272300 240, .once 202012262200 180]⟩
  ]

end Signpost.Zone
