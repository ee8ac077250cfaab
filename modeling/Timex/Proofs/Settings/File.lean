import Timex.Settings.File

/-!
# What a settings file gives

A source has to give settings: those of its section, or else the defaults, with a warning
where it cannot be opened, decoded or parsed. `load` gives what is promised of a source or
refuses the source, and `Refused` says which sources it refuses.
-/

namespace Timex.Settings

theorem ofSection_eq_error_iff {entries : List (Value × Value)} {why : Yaml.ConversionError} :
    ofSection entries = .error why ↔ why = .longInteger ∧
      ∃ name ∈ names, ∃ v, Value.get? entries name.toList = some v ∧ v.isWritable = false := by
  rw [ofSection]
  split
  · rename_i hall
    simp only [List.all_eq_true, Option.all_eq_true] at hall
    refine ⟨nofun, fun ⟨_, name, hn, v, hv, hw⟩ => ?_⟩
    rw [hall name hn v hv] at hw
    cases hw
  · rename_i hall
    simp only [Bool.not_eq_true, List.all_eq_false, Option.all_eq_false] at hall
    refine ⟨fun h => ?_, fun ⟨h, _⟩ => by rw [h]⟩
    cases h
    exact ⟨rfl, hall⟩

section
variable [YamlLibrary]

/-- The settings of a source, and whether a warning comes with them. -/
inductive Promised : Source → Loaded → Prop where
  | nowhere : Promised .nowhere ⟨default, false⟩
  | unreadable : Promised .unreadable ⟨default, true⟩
  | notUtf8 (h : Text.Utf8.decode? os = none) : Promised (.octets os) ⟨default, true⟩
  | noDocument (hd : YamlLibrary.document os = .error why) : Promised (.octets os) ⟨default, true⟩
  | noSection (hd : YamlLibrary.document os = .ok d) (hs : d.bind sectionOf = none) :
      Promised (.octets os) ⟨default, false⟩
  | ofSection (hd : YamlLibrary.document os = .ok d) (hs : d.bind sectionOf = some entries)
      (ho : Settings.ofSection entries = .ok settings) : Promised (.octets os) ⟨settings, false⟩

/-- The sources that give no settings: octets that are found not to be UTF-8, a scalar that
has no value of its tag, and a setting that is too long an integer to be written. -/
inductive Refused : Source → LoadError → Prop where
  | notUtf8 (h : YamlLibrary.document os = .error .notUtf8) : Refused (.octets os) .notUtf8
  | unconvertible (h : YamlLibrary.document os = .error (.unconvertible why)) :
      Refused (.octets os) (.unconvertible why)
  | unwritable (hd : YamlLibrary.document os = .ok d) (hs : d.bind sectionOf = some entries)
      (hn : name ∈ names) (hv : Value.get? entries name.toList = some v)
      (hw : v.isWritable = false) : Refused (.octets os) (.unconvertible .longInteger)

variable {s : Source} {r : Loaded} {e : LoadError}

theorem load_eq_error_iff_refused : load s = .error e ↔ Refused s e := by
  rw [load_eq_error_iff]
  constructor
  · rintro ⟨os, rfl, h⟩
    split at h
    · cases h
    · cases h
    · rename_i hd
      exact h ▸ .notUtf8 hd
    · rename_i hd
      exact h ▸ .unconvertible hd
    · rename_i d hd
      obtain ⟨why, hw, rfl⟩ := h
      unfold ofDocument at hw
      split at hw
      · rename_i hs
        obtain ⟨rfl, name, hn, v, hv, hv'⟩ := ofSection_eq_error_iff.mp hw
        exact .unwritable hd hs hn hv hv'
      · cases hw
  · rintro (hd | hd | ⟨hd, hs, hn, hv, hw⟩)
    · exact ⟨_, rfl, by rw [hd]⟩
    · exact ⟨_, rfl, by rw [hd]⟩
    · refine ⟨_, rfl, ?_⟩
      rw [hd]
      refine ⟨.longInteger, ?_, rfl⟩
      rw [ofDocument, hs]
      exact ofSection_eq_error_iff.mpr ⟨rfl, _, hn, _, hv, hw⟩

/-- Octets that are not UTF-8 are no document, so that nothing but the document and its section
decides what is promised. -/
theorem promised_octets_iff : Promised (.octets os) r ↔
    (∃ why, YamlLibrary.document os = .error why ∧ r = ⟨default, true⟩) ∨
      ∃ d settings, YamlLibrary.document os = .ok d ∧ ofDocument d = .ok settings ∧
        r = ⟨settings, false⟩ := by
  constructor
  · rintro (_ | _ | hu | hd | ⟨hd, hs⟩ | ⟨hd, hs, ho⟩)
    · obtain ⟨why, hd⟩ := YamlLibrary.exists_document_eq_error hu
      exact .inl ⟨why, hd, rfl⟩
    · exact .inl ⟨_, hd, rfl⟩
    · exact .inr ⟨_, _, hd, by rw [ofDocument, hs], rfl⟩
    · exact .inr ⟨_, _, hd, by rw [ofDocument, hs]; exact ho, rfl⟩
  · rintro (⟨why, hd, rfl⟩ | ⟨d, settings, hd, ho, rfl⟩)
    · exact .noDocument hd
    · unfold ofDocument at ho
      split at ho
      · exact .ofSection hd ‹_› ho
      · cases ho
        exact .noSection hd ‹_›

theorem Promised.unique {r' : Loaded} (h : Promised s r) (h' : Promised s r') : r = r' := by
  cases s with
  | nowhere => cases h; cases h'; rfl
  | unreadable => cases h; cases h'; rfl
  | octets os =>
    rw [promised_octets_iff] at h h'
    rcases h with ⟨why, hd, rfl⟩ | ⟨d, settings, hd, ho, rfl⟩ <;>
      rcases h' with ⟨why', hd', rfl⟩ | ⟨d', settings', hd', ho', rfl⟩
    · rfl
    · cases hd.symm.trans hd'
    · cases hd.symm.trans hd'
    · obtain rfl := Except.ok.inj (hd.symm.trans hd')
      obtain rfl := Except.ok.inj (ho.symm.trans ho')
      rfl

/-- What has been loaded was promised. -/
theorem promised_of_load (h : load s = .ok r) : Promised s r := by
  cases s with
  | nowhere =>
    cases h
    exact .nowhere
  | unreadable =>
    cases h
    exact .unreadable
  | octets os =>
    rw [promised_octets_iff]
    unfold load at h
    dsimp only at h
    split at h
    · cases h
      exact .inl ⟨_, ‹_›, rfl⟩
    · cases h
      exact .inl ⟨_, ‹_›, rfl⟩
    · cases h
    · cases h
    · split at h
      · cases h
        exact .inr ⟨_, _, ‹_›, ‹_›, rfl⟩
      · cases h

end

/-- A file that is not UTF-8 and is decoded as a whole gives nothing. -/
theorem refused_of_short {os : List Nat} (h : Text.Utf8.decode? os = none)
    (hl : os.length < 2 * Yaml.Stream.pieceLength) :
    @Refused YamlLibrary.builtIn (.octets os) .notUtf8 :=
  .notUtf8 (Yaml.Document.ofOctets_of_short h hl)

/-- A source is refused, or gives what is promised of it. A file that is not UTF-8 is promised
the defaults, and the library built in refuses it if it is decoded as a whole. -/
theorem loads_what_is_promised [YamlLibrary] (s : Source) :
    (∀ r, load s = .ok r ↔ Promised s r ∧ ∀ e, ¬Refused s e) ∧
    (∀ e, load s = .error e ↔ Refused s e) ∧
    ∀ os, s = .octets os → Text.Utf8.decode? os = none →
      os.length < 2 * Yaml.Stream.pieceLength →
      @load YamlLibrary.builtIn (.octets os) = .error .notUtf8 := by
  refine ⟨fun r => ⟨fun h => ⟨promised_of_load h, fun e he => ?_⟩, fun ⟨hp, hr⟩ => ?_⟩,
    fun e => load_eq_error_iff_refused, ?_⟩
  · rw [load_eq_error_iff_refused.mpr he] at h
    cases h
  · cases hl : load s with
    | error e => exact (hr e (load_eq_error_iff_refused.mp hl)).elim
    | ok r' => rw [hp.unique (promised_of_load hl)]
  · rintro os - hu hl
    exact (@load_eq_error_iff_refused YamlLibrary.builtIn _ _).mpr (refused_of_short hu hl)

/-- An octet that no character has. -/
theorem lone_octet_refused :
    Text.Utf8.decode? [0xFF] = none ∧ [0xFF].length < 2 * Yaml.Stream.pieceLength ∧
      load (.octets [0xFF]) = .error .notUtf8 := by
  have hu : Text.Utf8.decode? [0xFF] = none := by decide +kernel
  have hl : [0xFF].length < 2 * Yaml.Stream.pieceLength := by decide
  exact ⟨hu, hl, (loads_what_is_promised (.octets [0xFF])).2.2 _ rfl hu hl⟩

theorem not_forall_promised : ¬ ∀ s r, Promised s r → load s = .ok r := by
  intro h
  have hu : Text.Utf8.decode? [0xFF] = none := by decide +kernel
  have hp := h (.octets [0xFF]) ⟨default, true⟩ (.notUtf8 hu)
  have hr := load_eq_error_iff_refused.mpr (refused_of_short hu (by decide))
  rw [hp] at hr
  cases hr

end Timex.Settings
