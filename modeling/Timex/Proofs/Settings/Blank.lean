import Timex.Proofs.Text.Trim
import Timex.Settings.File

/-!
# Blank settings

The same settings can stand in a mapping and in the environment. The environment trims them and
takes the default for a blank one. The mapping takes them as they are, so that the two agree only
on texts that are neither blank nor padded.
-/

namespace Timex.Settings

-- ---------------------------------------------------------------------------
-- Keys
-- ---------------------------------------------------------------------------

inductive Key where
  | locale
  | dateFormat
  | timeFormat
  | timezone

namespace Key

/-- The name in a mapping. -/
def name : Key → String
  | .locale => "locale"
  | .dateFormat => "date_format"
  | .timeFormat => "time_format"
  | .timezone => "timezone"

/-- The name in the environment. -/
def envName : Key → String
  | .locale => "TIMEXNORM_LOCALE"
  | .dateFormat => "TIMEXNORM_DATE_FORMAT"
  | .timeFormat => "TIMEXNORM_TIME_FORMAT"
  | .timezone => "TIMEXNORM_TIMEZONE"

end Key

def get (s : Settings) : Key → Text
  | .locale => s.locale
  | .dateFormat => s.dateFormat
  | .timeFormat => s.timeFormat
  | .timezone => s.timezone

theorem eq_iff_get {s s' : Settings} : s = s' ↔ ∀ k, s.get k = s'.get k := by
  refine ⟨fun h k => h ▸ rfl, fun h => ?_⟩
  have hl := h .locale
  have hd := h .dateFormat
  have ht := h .timeFormat
  have hz := h .timezone
  cases s
  cases s'
  simp_all [get]

theorem get_ofEnvironment (env : Environment) (k : Key) :
    (ofEnvironment env).get k = variableOr env k.envName (default.get k) := by
  cases k <;> rfl

theorem get_ofMapping (entries : List (Value × Value)) (k : Key) :
    (ofMapping entries).get k = entryOr entries k.name (default.get k) := by
  cases k <;> rfl

theorem mem_names_iff {name : String} : name ∈ names ↔ ∃ k : Key, k.name = name := by
  constructor
  · intro h
    simp only [names, List.mem_cons, List.not_mem_nil, or_false] at h
    rcases h with rfl | rfl | rfl | rfl
    · exact ⟨.locale, rfl⟩
    · exact ⟨.dateFormat, rfl⟩
    · exact ⟨.timeFormat, rfl⟩
    · exact ⟨.timezone, rfl⟩
  · rintro ⟨k, rfl⟩
    cases k <;> decide

-- ---------------------------------------------------------------------------
-- Assignments
-- ---------------------------------------------------------------------------

/-- What a setting is given. Null can stand in a mapping only. -/
inductive Assigned where
  | absent
  | null
  | text (t : Text)

namespace Assigned

def value? : Assigned → Option Value
  | .absent => none
  | .null => some .null
  | .text t => some (.text t)

def text? : Assigned → Option Text
  | .text t => some t
  | _ => none

/-- A text without the blanks around it. What is absent, null or blank means the default. -/
def meant (standIn : Text) : Assigned → Text
  | .text t => if Text.trim t = [] then standIn else Text.trim t
  | _ => standIn

/-- A text as it is. Null is written out, and only what is absent means the default. -/
def kept (standIn : Text) : Assigned → Text
  | .absent => standIn
  | .null => "None".toList
  | .text t => t

/-- Neither null nor blank nor padded. -/
def Plain : Assigned → Prop
  | .absent => True
  | .null => False
  | .text t => t ≠ [] ∧ Text.Trimmed Text.isBlank t

end Assigned

/-- A mapping and an environment with one assignment. Whatever else they hold does not matter. -/
structure Carried (a : Key → Assigned) (entries : List (Value × Value)) (env : Environment) :
    Prop where
  entry : ∀ k, Value.get? entries k.name.toList = (a k).value?
  text : ∀ k, env.lookup k.envName.toList = (a k).text?

-- ---------------------------------------------------------------------------
-- Loaders
-- ---------------------------------------------------------------------------

theorem plain_default (k : Key) : (Assigned.text (default.get k)).Plain := by
  refine ⟨?_, Text.trimBy_eq_self_iff.mp ?_⟩ <;> cases k <;> decide

theorem default_ne_none (k : Key) : default.get k ≠ "None".toList := by
  cases k <;> decide

theorem plain_meant {standIn : Text} (h : (Assigned.text standIn).Plain) (given : Assigned) :
    (Assigned.text (given.meant standIn)).Plain := by
  cases given with
  | absent => exact h
  | null => exact h
  | text t =>
    rw [Assigned.meant]
    split
    case isTrue => exact h
    case isFalse hne => exact ⟨hne, Text.trimmed_trimBy _ t⟩

/-- Null is written as no default is, and a blank text is no default. -/
theorem kept_eq_meant_iff {standIn : Text} (h : (Assigned.text standIn).Plain)
    (hn : standIn ≠ "None".toList) (given : Assigned) :
    given.kept standIn = given.meant standIn ↔ given.Plain := by
  cases given with
  | absent => exact iff_of_true rfl trivial
  | null => exact iff_of_false (Ne.symm hn) not_false
  | text t =>
    rw [Assigned.kept, Assigned.meant]
    constructor
    · intro he
      rw [he]
      exact plain_meant h (.text t)
    · intro ht
      rw [Text.trim_eq_self ht.2, if_neg ht.1]

section
variable {a : Key → Assigned} {entries : List (Value × Value)} {env : Environment}
  (h : Carried a entries env)
include h

theorem get_ofEnvironment_eq_meant (k : Key) :
    (ofEnvironment env).get k = (a k).meant (default.get k) := by
  have hd := plain_default k
  rw [get_ofEnvironment, variableOr, h.text k]
  cases a k with
  | text t => simp [Assigned.text?, Assigned.meant]
  | absent => simp [Assigned.text?, Assigned.meant, Text.trim_eq_self hd.2]
  | null => simp [Assigned.text?, Assigned.meant, Text.trim_eq_self hd.2]

theorem get_ofMapping_eq_kept (k : Key) :
    (ofMapping entries).get k = (a k).kept (default.get k) := by
  rw [get_ofMapping, entryOr, h.entry k]
  cases a k <;> rfl

theorem ofSection_of_carried : ofSection entries = .ok (ofMapping entries) := by
  rw [ofSection, if_pos]
  simp only [List.all_eq_true, Option.all_eq_true]
  intro name hname v hv
  obtain ⟨k, rfl⟩ := mem_names_iff.mp hname
  rw [h.entry k] at hv
  cases hk : a k with
  | absent => simp [hk, Assigned.value?] at hv
  | null =>
    rw [hk] at hv
    cases hv
    rfl
  | text t =>
    rw [hk] at hv
    cases hv
    rfl

theorem load_of_carried [YamlLibrary] {os : List Nat} {d : Yaml.Document}
    (hd : YamlLibrary.document os = .ok (some d)) (hs : sectionOf d = some entries) :
    load (.octets os) = .ok ⟨ofMapping entries, false⟩ := by
  have ho : ofDocument (some d) = .ok (ofMapping entries) := by
    rw [ofDocument, Option.bind_some, hs]
    exact ofSection_of_carried h
  rw [load, hd]
  simp only [ho]

end

/-- The environment gives what is meant by an assignment, which is never blank and never padded.
A mapping, and the file that it is a section of, give it as it is kept. The two agree on a setting
that is neither null nor blank nor padded and on no other. -/
theorem loaders_agree_iff [YamlLibrary] {a : Key → Assigned} {entries : List (Value × Value)}
    {env : Environment} (h : Carried a entries env) :
    (∀ k, (ofEnvironment env).get k = (a k).meant (default.get k) ∧
      (ofEnvironment env).get k ≠ [] ∧
      Text.Trimmed Text.isBlank ((ofEnvironment env).get k)) ∧
    (∀ k, (ofMapping entries).get k = (a k).kept (default.get k)) ∧
    (∀ os d, YamlLibrary.document os = .ok (some d) → sectionOf d = some entries →
      load (.octets os) = .ok ⟨ofMapping entries, false⟩) ∧
    (∀ k, (ofMapping entries).get k = (ofEnvironment env).get k ↔ (a k).Plain) ∧
    (ofMapping entries = ofEnvironment env ↔ ∀ k, (a k).Plain) := by
  have hagree : ∀ k, (ofMapping entries).get k = (ofEnvironment env).get k ↔ (a k).Plain := by
    intro k
    rw [get_ofMapping_eq_kept h, get_ofEnvironment_eq_meant h]
    exact kept_eq_meant_iff (plain_default k) (default_ne_none k) (a k)
  refine ⟨fun k => ?_, get_ofMapping_eq_kept h, fun os d => load_of_carried h, hagree, ?_⟩
  · rw [get_ofEnvironment_eq_meant h]
    exact ⟨rfl, plain_meant (plain_default k) (a k)⟩
  · rw [eq_iff_get]
    exact forall_congr' hagree

/-- The locale is two spaces, and nothing else is given. -/
def blankLocale : Key → Assigned
  | .locale => .text "  ".toList
  | _ => .absent

theorem blankLocale_carried : Carried blankLocale
    [(.text "locale".toList, .text "  ".toList)] [("TIMEXNORM_LOCALE".toList, "  ".toList)] where
  entry k := by cases k <;> rfl
  text k := by cases k <;> rfl

theorem blank_locale_kept :
    Carried blankLocale
      [(.text "locale".toList, .text "  ".toList)] [("TIMEXNORM_LOCALE".toList, "  ".toList)] ∧
    (ofEnvironment [("TIMEXNORM_LOCALE".toList, "  ".toList)]).locale = "en_US".toList ∧
    (ofMapping [(.text "locale".toList, .text "  ".toList)]).locale = "  ".toList := by
  obtain ⟨henv, hmap, -⟩ := loaders_agree_iff blankLocale_carried
  exact ⟨blankLocale_carried, (henv .locale).1.trans (by decide), hmap .locale⟩

theorem not_forall_loaders_agree :
    ¬ ∀ a entries env, Carried a entries env → ofMapping entries = ofEnvironment env := by
  intro h
  have hlocale := congrArg Settings.locale (h _ _ _ blankLocale_carried)
  revert hlocale
  decide

end Timex.Settings
