import Signpost.Payload.Requests

/-!
# Templates

Ready-made conditions under a key, in the order of the catalogue.
-/

namespace Signpost

/-- Ready-made conditions under a key. -/
structure Template where
  key : String
  name : String
  description : String
  conditions : Conditions
deriving DecidableEq, Repr

namespace Template

/-- The condition that an attribute compares with one text. -/
def compares (a : Attribute) (op : Operator) (text : String) : Condition :=
  .onAttribute a op (.one text)

/-- The catalogue. -/
def catalogue : List Template :=
  [{ key := "APP_DOWNLOAD_IOS"
     name := "iOS App Download"
     description := "Redirect iOS users to App Store"
     conditions := ⟨.all, [compares .os .equals "iOS"]⟩ },
   { key := "APP_DOWNLOAD_ANDROID"
     name := "Android App Download"
     description := "Redirect Android users to Google Play"
     conditions := ⟨.all, [compares .os .equals "Android"]⟩ },
   { key := "MULTILANG_TW"
     name := "Traditional Chinese Users"
     description := "Redirect users preferring Traditional Chinese"
     conditions := ⟨.any, [compares .language .contains "zh-TW",
       compares .language .contains "zh-Hant", compares .country .equals "TW"]⟩ },
   { key := "MULTILANG_CN"
     name := "Simplified Chinese Users"
     description := "Redirect users preferring Simplified Chinese"
     conditions := ⟨.any, [compares .language .contains "zh-CN",
       compares .language .contains "zh-Hans", compares .country .equals "CN"]⟩ },
   { key := "BUSINESS_HOURS"
     name := "Business Hours"
     description := "Redirect during business hours (9:00-18:00)"
     conditions := ⟨.all, [.onTime .between ⟨"09:00", some "18:00", none⟩,
       .onDayOfWeek .isIn (.many (["1", "2", "3", "4", "5"].map .numeral))]⟩ },
   { key := "MOBILE_ONLY"
     name := "Mobile Users"
     description := "Redirect mobile device users"
     conditions := ⟨.all, [compares .device .equals "mobile"]⟩ },
   { key := "DESKTOP_ONLY"
     name := "Desktop Users"
     description := "Redirect desktop users"
     conditions := ⟨.all, [compares .device .equals "desktop"]⟩ }]

/-- The template under a key. -/
def find? (key : String) : Option Template :=
  catalogue.find? (·.key == key)

/-- A template's document. -/
def toJson (t : Template) : Json :=
  .obj [("key", .str t.key), ("name", .str t.name), ("description", .str t.description),
    ("conditions", t.conditions.toJson)]

/-- The rule that a use of the template asks for. A name or a priority that was not given comes from
the template; what is put together has to pass the checks of a draft. -/
def draft (t : Template) (use : TemplateUse) : Check.Checked RuleDraft :=
  let name := match use.name with
    | none | some "" => t.name
    | some s => s
  RuleDraft.mk <$> ruleNameRule [.field "name"] (.str name)
    <*> targetRule [.field "target_url"] (.str use.targetUrl)
    <*> priorityRule [.field "priority"] (.int (use.priority.getD 0))
    <*> .passed true
    <*> .passed t.conditions

end Template

end Signpost
