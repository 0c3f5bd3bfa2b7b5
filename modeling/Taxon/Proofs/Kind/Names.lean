import Taxon.Fault
import Taxon.Kind.Json
import Taxon.Proofs.Text.Json

/-!
Names of kinds. A kind's own name is the one text that parses to it, letter for letter; in JSON the
same names are read, as strings with any spelling of their characters or as the one key of an object
whose value is null.
-/

set_option autoImplicit false

namespace Taxon.Kind

theorem of_name_iff (name : String) (kind : Kind) :
    ofName? name = some kind ↔ name = kind.name := by
  constructor
  · intro read
    unfold ofName? at read
    split at read <;> cases read <;> rfl
  · rintro rfl
    cases kind <;> rfl

theorem json_name_eq (kind : Kind) : kind.jsonName = kind.name := by
  rw [← String.toList_inj]
  change (kind.word.map Char.toLower).toList = kind.name.toList
  rw [String.toList_map]
  cases kind <;> decide

theorem name_injective {kind other : Kind} (same : kind.name = other.name) : kind = other :=
  Option.some.inj (((of_name_iff _ kind).mpr rfl).symm.trans ((of_name_iff _ other).mpr same))

theorem of_json_name_eq (name : String) : ofJsonName? name = ofName? name := by
  apply Option.ext
  intro kind
  rw [of_name_iff, ofJsonName?]
  constructor
  · intro found
    have same := List.find?_some found
    rw [beq_iff_eq, json_name_eq] at same
    exact same.symm
  · rintro rfl
    obtain ⟨other, found⟩ : ∃ other, all.find? (fun k => k.jsonName == kind.name) = some other :=
      Option.isSome_iff_exists.mp
        (List.find?_isSome.mpr ⟨kind, mem_all kind, beq_iff_eq.mpr (json_name_eq kind)⟩)
    have same := List.find?_some found
    rw [beq_iff_eq, json_name_eq] at same
    rw [found, name_injective same]

theorem parse_iff (name : String) (kind : Kind) :
    Kind.parse name = .ok kind ↔ name = kind.name := by
  rw [← of_name_iff, Kind.parse]
  cases ofName? name with
  | none => exact ⟨nofun, nofun⟩
  | some _ => simp only [Except.ok.injEq, Option.some.injEq]

theorem parse_name (kind : Kind) : Kind.parse kind.name = .ok kind :=
  (parse_iff kind.name kind).mpr rfl

theorem of_form_iff (form : Json.Form) (kind : Kind) :
    ofForm? form = some kind ↔ form = .string kind.name ∨ form = .keyed kind.name := by
  cases form <;> simp only [ofForm?, of_json_name_eq, of_name_iff, Json.Form.string.injEq,
    Json.Form.keyed.injEq, reduceCtorEq, or_false, false_or]

theorem name_spells (kind : Kind) : Json.Spells kind.name.toList kind.name.toList := by
  apply Json.spells_itself
  cases kind <;> exact each_of_all (by decide)

theorem json_denotes (kind : Kind) : Json.Denotes kind.toJson.toList (.string kind.name) := by
  have quoted : kind.toJson.toList = '"' :: (kind.name.toList ++ ['"']) ++ [] := by
    rw [toJson, json_name_eq, List.append_nil, String.toList_append, String.toList_append]
    rfl
  have named : Json.Form.string kind.name = .string (String.ofList kind.name.toList) := by
    rw [String.ofList_toList]
  rw [quoted, named]
  exact .string ⟨kind.name.toList, ⟨[], nofun, rfl⟩, name_spells kind⟩ nofun

/-- A reader that decodes strings as their escapes are meant. -/
def Decodes (reader : Json.Reader) : Prop :=
  ∀ text form, reader text = some form ↔ Json.Denotes text.toList form

theorem read_json_iff {reader : Json.Reader} (decodes : Decodes reader) (text : String)
    (kind : Kind) : readJson reader text = some kind ↔
      ∃ name, (Json.Denotes text.toList (.string name) ∨ Json.Denotes text.toList (.keyed name)) ∧
        Kind.parse name = .ok kind := by
  rw [readJson, Option.bind_eq_some_iff]
  simp only [decodes text, of_form_iff, parse_iff]
  constructor
  · rintro ⟨form, denotes, rfl | rfl⟩
    · exact ⟨kind.name, .inl denotes, rfl⟩
    · exact ⟨kind.name, .inr denotes, rfl⟩
  · rintro ⟨name, denotes | denotes, rfl⟩
    · exact ⟨_, denotes, .inl rfl⟩
    · exact ⟨_, denotes, .inr rfl⟩

/-- The three tables of names agree. -/
structure NameLaw (reader : Json.Reader) : Prop where
  parsed (name : String) (kind : Kind) : Kind.parse name = .ok kind ↔ name = kind.name
  unknown (name : String) (fault : Fault) : Kind.parse name = .error fault ↔
    (∀ kind : Kind, name ≠ kind.name) ∧ fault = .unknownKindName name
  decoded (text : String) (kind : Kind) : readJson reader text = some kind ↔
    ∃ name, (Json.Denotes text.toList (.string name) ∨ Json.Denotes text.toList (.keyed name)) ∧
      Kind.parse name = .ok kind
  one_reading (text : List Char) (form other : Json.Form) :
    Json.Denotes text form → Json.Denotes text other → form = other
  displayed (kind : Kind) : Kind.parse kind.name = .ok kind
  serializedName (kind : Kind) : kind.toJson = "\"" ++ kind.name ++ "\""
  serialized (kind : Kind) : readJson reader kind.toJson = some kind
  distinct (kind other : Kind) : kind.name = other.name → kind = other

theorem name_law {reader : Json.Reader} (decodes : Decodes reader) : NameLaw reader where
  parsed := parse_iff
  unknown name fault := by
    constructor
    · intro failed
      refine ⟨fun kind same => ?_, ?_⟩
      · rw [(parse_iff name kind).mpr same] at failed
        cases failed
      · rw [Kind.parse] at failed
        split at failed <;> cases failed
        rfl
    · rintro ⟨unlike, rfl⟩
      have unread : ofName? name = none := by
        rw [Option.eq_none_iff_forall_ne_some]
        exact fun kind read => unlike kind ((of_name_iff name kind).mp read)
      rw [Kind.parse, unread]
  decoded := read_json_iff decodes
  one_reading _ _ _ denotes also := denotes.unique also
  displayed := parse_name
  serializedName kind := by rw [toJson, json_name_eq]
  serialized kind := (read_json_iff decodes kind.toJson kind).mpr
    ⟨kind.name, .inl (json_denotes kind), parse_name kind⟩
  distinct _ _ same := name_injective same

/-- The law of the reader at hand, which is the one of `ofJson?`. -/
theorem form_name_law : Decodes Json.form? ∧ NameLaw Json.form? :=
  ⟨Json.form_iff, name_law Json.form_iff⟩

example : ofJson? "\"\\u0073\\u0033\"" = some .s3 := by decide +kernel

example : ofJson? "\"S3\"" = none := by decide +kernel

end Taxon.Kind
