import Mathlib.Data.List.Forall2
import Timex.Payload

/-!
# Tokens of a payload

A payload is checked as a whole. If every entity of it is well formed, its tokens are those of
the wanted entities, in order; if one is not, all of them are refused with every error. Keys
beside those that are looked at have no part in it.
-/

namespace Timex

namespace Payload

-- ---------------------------------------------------------------------------
-- Well-formed payloads
-- ---------------------------------------------------------------------------

/-- The type that stands under its key: none, or a text without the white space around it. -/
inductive GivesKind : Option Value → Option Text → Prop
  | absent : GivesKind none none
  | null : GivesKind (some .null) none
  | text (t : Text) : GivesKind (some (.text t)) (some (Text.trimBy Text.isWhiteSpace t))

/-- An object with at least one text under `timex`, all without the white space around them. -/
inductive GivesEntity : Value → Entity → Prop
  | entity {entries : List (Value × Value)} {tokens : List Text} {kind : Option Text} :
      tokens ≠ [] →
      Value.get? entries "timex".toList = some (.list (tokens.map .text)) →
      GivesKind (Value.get? entries "type".toList) kind →
      GivesEntity (.map entries) ⟨tokens.map (Text.trimBy Text.isWhiteSpace), kind⟩

/-- The entities of the list under `datetime`, one for each item. -/
inductive GivesEntities : Option Value → List Entity → Prop
  | absent : GivesEntities none []
  | list {items : List Value} {entities : List Entity} :
      List.Forall₂ GivesEntity items entities → GivesEntities (some (.list items)) entities

-- ---------------------------------------------------------------------------
-- Checks that succeed
-- ---------------------------------------------------------------------------

section
variable {α β γ : Type} {a : Checked α} {b : Checked β}

theorem map_eq_ok_iff {f : α → γ} {z : γ} : a.map f = .ok z ↔ ∃ x, a = .ok x ∧ f x = z := by
  cases a <;> simp [Except.map]

theorem both_eq_ok_iff {x : α} {y : β} : both a b = .ok (x, y) ↔ a = .ok x ∧ b = .ok y := by
  cases a <;> cases b <;> simp [both]

theorem each_eq_ok_iff {check : α → Checked β} {as : List α} {bs : List β} :
    each check as = .ok bs ↔ List.Forall₂ (fun x y => check x = .ok y) as bs := by
  induction as generalizing bs with
  | nil => simp [each, eq_comm]
  | cons x xs ih =>
    simp only [each, map_eq_ok_iff, Prod.exists, both_eq_ok_iff, ih, List.forall₂_cons_left_iff]
    constructor
    · rintro ⟨y, ys, ⟨hy, hys⟩, rfl⟩
      exact ⟨y, ys, hy, hys, rfl⟩
    · rintro ⟨y, ys, hy, hys, rfl⟩
      exact ⟨y, ys, ⟨hy, hys⟩, rfl⟩

end

section
variable [PayloadLibrary]

open PayloadLibrary (text?_eq_some_iff list?_eq_some_iff entries?_eq_some_iff)

theorem checkText_eq_ok_iff {v : Value} {t : Text} :
    checkText v = .ok t ↔ ∃ u, v = .text u ∧ Text.trimBy Text.isWhiteSpace u = t := by
  rw [← text?_eq_some_iff, checkText]
  split <;> simp_all

theorem each_checkText_eq_ok_iff {items : List Value} {ts : List Text} :
    each checkText items = .ok ts ↔
      ∃ us : List Text, items = us.map .text ∧ us.map (Text.trimBy Text.isWhiteSpace) = ts := by
  rw [each_eq_ok_iff]
  simp only [checkText_eq_ok_iff]
  constructor
  · intro h
    induction h with
    | nil => exact ⟨[], rfl, rfl⟩
    | cons hv _ ih =>
      obtain ⟨u, rfl, rfl⟩ := hv
      obtain ⟨us, rfl, rfl⟩ := ih
      exact ⟨u :: us, rfl, rfl⟩
  · rintro ⟨us, rfl, rfl⟩
    induction us with
    | nil => exact .nil
    | cons u us ih => exact .cons ⟨u, rfl, rfl⟩ ih

theorem checkTokens_eq_ok_iff {given : Option Value} {ts : List Text} :
    checkTokens given = .ok ts ↔
      ∃ us : List Text, us ≠ [] ∧ given = some (.list (us.map .text)) ∧
        us.map (Text.trimBy Text.isWhiteSpace) = ts := by
  cases given with
  | none => simp [checkTokens]
  | some v =>
    simp only [checkTokens, Option.some.injEq, ← list?_eq_some_iff]
    split
    · rename_i hv
      simp [hv]
    · rename_i hv
      simp [hv, eq_comm]
    · rename_i items hne hv
      rw [each_checkText_eq_ok_iff]
      simp only [hv, Option.some.injEq]
      constructor
      · rintro ⟨us, rfl, rfl⟩
        have hus : us ≠ [] := by
          rintro rfl
          exact hne rfl
        exact ⟨us, hus, rfl, rfl⟩
      · rintro ⟨us, -, h, rfl⟩
        exact ⟨us, h, rfl⟩

theorem checkKind_eq_ok_iff {given : Option Value} {kind : Option Text} :
    checkKind given = .ok kind ↔ GivesKind given kind := by
  constructor
  · intro h
    unfold checkKind at h
    split at h
    · obtain rfl := Except.ok.inj h
      exact .absent
    · obtain rfl := Except.ok.inj h
      exact .null
    · obtain ⟨t, ht, rfl⟩ := map_eq_ok_iff.mp h
      obtain ⟨u, rfl, rfl⟩ := checkText_eq_ok_iff.mp ht
      exact .text u
  · rintro (_ | _ | u)
    · rfl
    · rfl
    · exact map_eq_ok_iff.mpr ⟨_, checkText_eq_ok_iff.mpr ⟨u, rfl, rfl⟩, rfl⟩

theorem checkEntity_eq_ok_iff {v : Value} {e : Entity} :
    checkEntity v = .ok e ↔ GivesEntity v e := by
  constructor
  · intro h
    unfold checkEntity at h
    split at h
    · rename_i hv
      obtain rfl := entries?_eq_some_iff.mp hv
      obtain ⟨⟨ts, kind⟩, hb, rfl⟩ := map_eq_ok_iff.mp h
      obtain ⟨ht, hk⟩ := both_eq_ok_iff.mp hb
      obtain ⟨us, hne, hus, rfl⟩ := checkTokens_eq_ok_iff.mp ht
      exact .entity hne hus (checkKind_eq_ok_iff.mp hk)
    · simp at h
  · rintro ⟨hne, ht, hk⟩
    have ht := checkTokens_eq_ok_iff.mpr ⟨_, hne, ht, rfl⟩
    rw [checkEntity, PayloadLibrary.entries?_map]
    exact map_eq_ok_iff.mpr
      ⟨(_, _), both_eq_ok_iff.mpr ⟨ht, checkKind_eq_ok_iff.mpr hk⟩, rfl⟩

theorem checkEntities_eq_ok_iff {entries : List (Value × Value)} {es : List Entity} :
    checkEntities entries = .ok es ↔
      GivesEntities (Value.get? entries "datetime".toList) es := by
  unfold checkEntities
  generalize Value.get? entries "datetime".toList = given
  constructor
  · intro h
    split at h
    · obtain rfl := Except.ok.inj h
      exact .absent
    · split at h
      · rename_i hv
        obtain rfl := list?_eq_some_iff.mp hv
        simp only [each_eq_ok_iff, checkEntity_eq_ok_iff] at h
        exact .list h
      · simp at h
  · rintro (_ | h)
    · rfl
    · simpa only [PayloadLibrary.list?_list, each_eq_ok_iff, checkEntity_eq_ok_iff] using h

end

-- ---------------------------------------------------------------------------
-- Checks that fail
-- ---------------------------------------------------------------------------

/-- What is refused is refused for something. -/
def Founded (a : Checked α) : Prop := ∀ errors, a = .error errors → errors ≠ []

section
variable {α β γ : Type} {a : Checked α} {b : Checked β}

theorem founded_ok (x : α) : Founded (.ok x : Checked α) := nofun

theorem founded_error (e : PayloadError) : Founded (.error [e] : Checked α) := by
  rintro _ ⟨⟩
  simp

theorem Founded.map (h : Founded a) (f : α → γ) : Founded (a.map f) := by
  cases a with
  | ok x => exact nofun
  | error errors =>
    rintro _ ⟨⟩
    exact h errors rfl

theorem Founded.both (ha : Founded a) (hb : Founded b) : Founded (both a b) := by
  cases a with
  | ok x =>
    cases b with
    | ok y => exact nofun
    | error errors =>
      rintro _ ⟨⟩
      exact hb errors rfl
  | error errors =>
    have hne := ha errors rfl
    cases b with
    | ok y =>
      rintro _ ⟨⟩
      exact hne
    | error more =>
      rintro _ ⟨⟩
      simp [hne]

theorem founded_each {check : α → Checked β} (h : ∀ x, Founded (check x)) (xs : List α) :
    Founded (each check xs) := by
  induction xs with
  | nil => exact founded_ok []
  | cons x xs ih => exact ((h x).both ih).map _

end

section
variable [PayloadLibrary]

theorem founded_checkText (v : Value) : Founded (checkText v) := by
  unfold checkText
  split
  · exact founded_ok _
  · exact founded_error _

theorem founded_checkTokens (given : Option Value) : Founded (checkTokens given) := by
  unfold checkTokens
  split
  · exact founded_error _
  · split
    · exact founded_error _
    · exact founded_error _
    · exact founded_each founded_checkText _

theorem founded_checkKind (given : Option Value) : Founded (checkKind given) := by
  unfold checkKind
  split
  · exact founded_ok _
  · exact founded_ok _
  · exact (founded_checkText _).map _

theorem founded_checkEntity (v : Value) : Founded (checkEntity v) := by
  unfold checkEntity
  split
  · exact ((founded_checkTokens _).both (founded_checkKind _)).map _
  · exact founded_error _

theorem founded_checkEntities (entries : List (Value × Value)) :
    Founded (checkEntities entries) := by
  unfold checkEntities
  split
  · exact founded_ok _
  · split
    · exact founded_each founded_checkEntity _
    · exact founded_error _

end

-- ---------------------------------------------------------------------------
-- What is looked at
-- ---------------------------------------------------------------------------

/-- Items that differ, if they do, in keys of an entity that are not looked at. -/
inductive SameEntity : Value → Value → Prop
  | refl (v : Value) : SameEntity v v
  | entity {entries entries' : List (Value × Value)} :
      Value.get? entries "timex".toList = Value.get? entries' "timex".toList →
      Value.get? entries "type".toList = Value.get? entries' "type".toList →
      SameEntity (.map entries) (.map entries')

/-- The same under `datetime`, or lists of the same entities. -/
inductive SameEntities : Option Value → Option Value → Prop
  | refl (given : Option Value) : SameEntities given given
  | list {items items' : List Value} :
      List.Forall₂ SameEntity items items' →
      SameEntities (some (.list items)) (some (.list items'))

theorem each_congr {check : α → Checked β} {R : α → α → Prop}
    (h : ∀ x y, R x y → check x = check y) {xs ys : List α} (hr : List.Forall₂ R xs ys) :
    each check xs = each check ys := by
  induction hr with
  | nil => rfl
  | cons hxy _ ih => rw [each, each, h _ _ hxy, ih]

theorem checkEntity_congr [PayloadLibrary] (v w : Value) (h : SameEntity v w) :
    checkEntity v = checkEntity w := by
  cases h with
  | refl => rfl
  | entity ht hk => simp only [checkEntity, PayloadLibrary.entries?_map, ht, hk]

theorem checkEntities_congr [PayloadLibrary] {entries entries' : List (Value × Value)}
    (h : SameEntities (Value.get? entries "datetime".toList)
      (Value.get? entries' "datetime".toList)) :
    checkEntities entries = checkEntities entries' := by
  unfold checkEntities
  generalize Value.get? entries "datetime".toList = given at h
  generalize Value.get? entries' "datetime".toList = given' at h
  cases h with
  | refl => rfl
  | list hi => simpa only [PayloadLibrary.list?_list] using each_congr checkEntity_congr hi

end Payload

open Payload

-- ---------------------------------------------------------------------------
-- Tokens
-- ---------------------------------------------------------------------------

/-- The tokens of a well-formed payload are those of the entities of a wanted type, in order.
Any other payload is refused, whatever types are wanted, and the message counts the errors. What
stands under other keys changes nothing. -/
theorem extractTokens_all_or_nothing [PayloadLibrary] (entries : List (Value × Value)) :
    (∀ entities, GivesEntities (Value.get? entries "datetime".toList) entities →
      ∀ types, extractTokens entries types =
        .ok ((entities.filter fun e => types.all fun wanted => wanted.contains e.kind).flatMap
          Entity.tokens)) ∧
    ((¬ ∃ entities, GivesEntities (Value.get? entries "datetime".toList) entities) →
      ∃ f, (∀ types, extractTokens entries types = .error f) ∧ f.kind = .entityPayload ∧
        ∃ errors : List PayloadError, errors ≠ [] ∧
          f.context.metadata = [("errors".toList,
            .list (errors.map fun e => .text (PayloadLibrary.wording e)))] ∧
          f.message = "datetime entities failed validation (".toList ++
            Text.decimal errors.length ++ " errors)".toList) ∧
    ∀ entries', SameEntities (Value.get? entries "datetime".toList)
        (Value.get? entries' "datetime".toList) →
      ∀ types, extractTokens entries' types = extractTokens entries types := by
  refine ⟨fun entities h types => ?_, fun h => ?_, fun entries' h types => ?_⟩
  · simp only [extractTokens, checkEntities_eq_ok_iff.mpr h]
    cases types <;> rfl
  · cases hc : checkEntities entries with
    | ok entities => exact absurd ⟨entities, checkEntities_eq_ok_iff.mp hc⟩ h
    | error errors =>
      refine ⟨refusal errors, fun types => by simp only [extractTokens, hc], rfl, errors, ?_, rfl, rfl⟩
      exact founded_checkEntities entries errors hc
  · rw [extractTokens, extractTokens, checkEntities_congr h]

/-- A payload of a day and the afternoon, perhaps with more about the day. -/
def examplePayload (day : Value) (more : List (Value × Value)) : List (Value × Value) :=
  [(.ofString "datetime", .list
    [.map ([(.ofString "timex", .list [day]), (.ofString "type", .ofString "date")] ++ more),
     .map [(.ofString "timex", .list [.ofString " T14"]), (.ofString "type", .ofString "time ")]])]

/-- Of a Sunday and an afternoon the time is taken, whatever else is known of the Sunday. With a
number in place of the Sunday nothing is, though only times are wanted. -/
theorem afternoon_of_payload :
    let sunday := Value.ofString "2018-10-28"
    let more := [(Value.ofString "text", Value.ofString "sunday")]
    (∃ entities,
      GivesEntities (Value.get? (examplePayload sunday []) "datetime".toList) entities ∧
        extractTokens (examplePayload sunday []) (some [some "time".toList]) =
          .ok ["T14".toList]) ∧
    (∃ f,
      (¬ ∃ entities,
        GivesEntities (Value.get? (examplePayload (.integer 7) []) "datetime".toList) entities) ∧
        extractTokens (examplePayload (.integer 7) []) (some [some "time".toList]) = .error f) ∧
    SameEntities (Value.get? (examplePayload sunday []) "datetime".toList)
        (Value.get? (examplePayload sunday more) "datetime".toList) ∧
      extractTokens (examplePayload sunday more) none =
        extractTokens (examplePayload sunday []) none := by
  intro sunday more
  refine ⟨?_, ?_, ?_⟩
  · have hg : GivesEntities (Value.get? (examplePayload sunday []) "datetime".toList)
        [⟨["2018-10-28".toList], some "date".toList⟩, ⟨["T14".toList], some "time".toList⟩] :=
      checkEntities_eq_ok_iff.mp rfl
    exact ⟨_, hg, (extractTokens_all_or_nothing _).1 _ hg _⟩
  · have hg : ¬ ∃ entities,
        GivesEntities (Value.get? (examplePayload (.integer 7) []) "datetime".toList) entities := by
      rintro ⟨entities, hg⟩
      have hc : checkEntities (examplePayload (.integer 7) []) = .error [.notText] := rfl
      exact absurd (hc.symm.trans (checkEntities_eq_ok_iff.mpr hg)) (by simp)
    obtain ⟨f, hf, -⟩ := (extractTokens_all_or_nothing _).2.1 hg
    exact ⟨f, hg, hf _⟩
  · have hs : SameEntities (Value.get? (examplePayload sunday []) "datetime".toList)
        (Value.get? (examplePayload sunday more) "datetime".toList) :=
      .list (.cons (.entity rfl rfl) (.cons (.refl _) .nil))
    exact ⟨hs, (extractTokens_all_or_nothing _).2.2 _ hs none⟩

end Timex
