import Typeset.Proofs.Json.Lines
import Typeset.Proofs.Settings.Load
import Typeset.Proofs.Settings.Run

/-!
# Repeated names in settings files

An object holds the last value of each name in its text.  Main statement: a well-formed file in
which two spellings name one field is an error of the value kind, while a name that is spelled
the same way each time counts with its last value.
-/

namespace Typeset

namespace Entries

variable {entries : Entries} {field : Field} {key other : String} {value : Value}

/-! ## Last values -/

/-- Entries that can be stored with the last value for each key: different keys name different
fields, and every field takes the last value for its key. -/
structure LastAcceptable (entries : Entries) : Prop where
  spelled : ∀ key ∈ entries.keys, ∀ other ∈ entries.keys,
    resolveKey key = resolveKey other → key = other
  accepted : ∀ (field : Field) (key : String) (value : Value), entries.LastGives key value →
    resolveKey key = field.name → field.Accepts value
  known : ∀ key ∈ entries.keys, IsKnown key

theorem putMember_eq_put (entries : Entries) (key : String) (value : Value) :
    Json.putMember entries key value = entries.put key value := by
  induction entries with
  | nil => rfl
  | cons entry entries ih => rw [Json.putMember, put, ih]

theorem lastValues_eq_putAll (entries : Entries) : Json.lastValues entries = putAll [] entries := by
  simp only [Json.lastValues, putAll, putMember_eq_put]

theorem nodup_keys_lastValues (entries : Entries) : (keys (Json.lastValues entries)).Nodup := by
  rw [lastValues_eq_putAll]
  exact nodup_keys_putAll List.nodup_nil

theorem mem_lastValues_iff :
    (key, value) ∈ Json.lastValues entries ↔ entries.LastGives key value := by
  have distinct : (keys []).Nodup := List.nodup_nil
  rw [lastValues_eq_putAll, mem_putAll_iff_lastGives distinct]
  simp

theorem mem_keys_lastValues_iff :
    key ∈ keys (Json.lastValues entries) ↔ key ∈ entries.keys := by
  rw [lastValues_eq_putAll, mem_keys_putAll_iff]
  simp [keys]

theorem supplies_lastValues_iff :
    Supplies (Json.lastValues entries) field value ↔
      ∃ key, entries.LastGives key value ∧ resolveKey key = field.name := by
  simp only [Supplies, mem_lastValues_iff]

/-- Keys that are spelled alike whenever they name the same give different names only. -/
theorem nodup_names_lastValues_iff :
    (names (Json.lastValues entries)).Nodup ↔ ∀ key ∈ entries.keys, ∀ other ∈ entries.keys,
      resolveKey key = resolveKey other → key = other := by
  rw [names_eq_map_keys]
  constructor
  · intro distinct key member other otherMember same
    exact List.inj_on_of_nodup_map distinct (mem_keys_lastValues_iff.mpr member)
      (mem_keys_lastValues_iff.mpr otherMember) same
  · intro spelled
    refine (nodup_keys_lastValues entries).map_on fun key member other otherMember same => ?_
    exact spelled key (mem_keys_lastValues_iff.mp member) other
      (mem_keys_lastValues_iff.mp otherMember) same

theorem acceptable_lastValues_iff :
    Acceptable (Json.lastValues entries) ↔ entries.LastAcceptable := by
  constructor
  · intro acceptable
    refine ⟨nodup_names_lastValues_iff.mp acceptable.distinct, ?_, fun key member => ?_⟩
    · intro field key value last resolved
      exact acceptable.accepted field value (supplies_lastValues_iff.mpr ⟨key, last, resolved⟩)
    · obtain ⟨entry, listed, rfl⟩ := List.mem_map.mp (mem_keys_lastValues_iff.mpr member)
      exact acceptable.known entry listed
  · intro acceptable
    refine ⟨nodup_names_lastValues_iff.mpr acceptable.spelled, ?_, fun entry member => ?_⟩
    · intro field value supplied
      obtain ⟨key, last, resolved⟩ := supplies_lastValues_iff.mp supplied
      exact acceptable.accepted field key value last resolved
    · have listed : entry.1 ∈ keys (Json.lastValues entries) :=
        List.mem_map.mpr ⟨entry, member, rfl⟩
      exact acceptable.known entry.1 (mem_keys_lastValues_iff.mp listed)

theorem exists_lastGives (member : key ∈ entries.keys) : ∃ value, entries.LastGives key value := by
  obtain ⟨entry, listed, rfl⟩ := List.mem_map.mp (mem_keys_lastValues_iff.mpr member)
  exact ⟨entry.2, mem_lastValues_iff.mp listed⟩

end Entries

/-! ## Files -/

/-- Every field of the next snapshot holds the last value for a key that names it, or what it held
before. -/
structure Snapshot.LastReplaced (base : Snapshot) (entries : Entries) (next : Snapshot) : Prop where
  given : ∀ (field : Field) (key : String) (value : Value), entries.LastGives key value →
    Entries.resolveKey key = field.name → next field = value
  kept : ∀ field : Field, (∀ key ∈ entries.keys, Entries.resolveKey key ≠ field.name) →
    next field = base field

theorem Snapshot.replaced_lastValues_iff {base next : Snapshot} {entries : Entries} :
    base.Replaced (Json.lastValues entries) next ↔ base.LastReplaced entries next := by
  constructor
  · intro replaced
    refine ⟨fun field key value last resolved => ?_, fun field absent => ?_⟩
    · exact replaced.supplied field value
        (Entries.supplies_lastValues_iff.mpr ⟨key, last, resolved⟩)
    · refine replaced.kept field fun value supplied => ?_
      obtain ⟨key, last, resolved⟩ := Entries.supplies_lastValues_iff.mp supplied
      exact absent key (List.mem_map.mpr ⟨_, last.mem, rfl⟩) resolved
  · intro replaced
    refine ⟨fun field value supplied => ?_, fun field absent => ?_⟩
    · obtain ⟨key, last, resolved⟩ := Entries.supplies_lastValues_iff.mp supplied
      exact replaced.given field key value last resolved
    · refine replaced.kept field fun key member resolved => ?_
      obtain ⟨value, last⟩ := Entries.exists_lastGives member
      exact absent value (Entries.supplies_lastValues_iff.mpr ⟨key, last, resolved⟩)

namespace Settings

variable {limit : Nat} {bytes : List UInt8} {chars : List Char} {members : Entries}

/-- The only members that a well-formed file can hold are the last values of its names, and it
holds them unless an integer in it has too many digits. -/
theorem holdsObject_of_objectText (decoded : Text.Utf8.decode bytes = .ok chars)
    (object : Json.ObjectText limit chars members) :
    (∀ others, HoldsObject bytes others → others = Json.lastValues members) ∧
      (limit ≤ Number.digitLimit → HoldsObject bytes (Json.lastValues members)) := by
  have unified : decodeText bytes = .ok (Text.unifyLines chars) := by rw [decodeText, decoded]
  constructor
  · rintro others ⟨text, decodedText, parsed⟩
    cases unified.symm.trans decodedText
    rcases object.unifyLines.parse_yields with yields | ⟨-, count, position, yields⟩
    · cases yields.symm.trans parsed
      rfl
    · cases yields.symm.trans parsed
  · intro short
    rcases object.unifyLines.parse_yields with yields | ⟨long, -⟩
    · exact ⟨_, unified, yields⟩
    · exact absurd short (Nat.not_le.mpr long)

/-- Loading a well-formed file over any values.  If two spellings in it name one field, it is an
error of the value kind.  Else a name may come more than once: when no integer in the file has too
many digits, it is loaded exactly when all keys are known and every field takes the last value for
its key, and then holds that value.  Settings are loaded as the snapshot of their values is. -/
theorem load_objectText (name : String) (decoded : Text.Utf8.decode bytes = .ok chars)
    (object : Json.ObjectText limit chars members) :
    (∀ (base : Snapshot) (field : Field) (key other : String), key ∈ members.keys →
      other ∈ members.keys → key ≠ other → Entries.resolveKey key = field.name →
        Entries.resolveKey other = field.name →
          ∃ error, base.load name bytes = .error error ∧ error.kind = .value) ∧
    (limit ≤ Number.digitLimit → ∀ base next : Snapshot, base.load name bytes = .ok next ↔
      members.LastAcceptable ∧ base.LastReplaced members next) ∧
    ∀ settings : Settings,
      (load name bytes settings).map snapshot = settings.snapshot.load name bytes := by
  obtain ⟨unique, holds⟩ := holdsObject_of_objectText decoded object
  refine ⟨?_, fun short base next => ?_, map_snapshot_load name bytes⟩
  · intro base field key other member otherMember different resolved otherResolved
    have twice : ¬(Entries.names (Json.lastValues members)).Nodup := by
      rw [Entries.nodup_names_lastValues_iff]
      intro spelled
      exact different (spelled key member other otherMember (resolved.trans otherResolved.symm))
    have ends : LoadEnds base.merge bytes (loadWith base.merge name bytes) :=
      loadEnds_loadWith (fun _ _ => Snapshot.merge_eq_error_iff) name bytes
    rw [Snapshot.load]
    cases ended : loadWith base.merge name bytes with
    | ok next =>
        obtain ⟨others, othersHold, merged⟩ := loadWith_eq_ok_iff.mp ended
        cases unique others othersHold
        exact absurd (Snapshot.merge_eq_ok_iff.mp merged).1.distinct twice
    | error error =>
        rw [ended] at ends
        cases ends with
        | failed kind refused => exact ⟨error, rfl, kind⟩
        | tooLarge kind othersHold refused =>
            cases unique _ othersHold
            cases refused with
            | invalid distinct order accepted supplied refuses => exact absurd distinct twice
  · rw [Snapshot.load, loadWith_eq_ok_iff, ← Entries.acceptable_lastValues_iff,
      ← Snapshot.replaced_lastValues_iff, ← Snapshot.merge_eq_ok_iff]
    constructor
    · rintro ⟨others, othersHold, merged⟩
      rwa [unique others othersHold] at merged
    · exact fun merged => ⟨_, holds short, merged⟩

/-- The text of an object with two sizes. -/
def sizesText (key other : String) : String :=
  "\x7b\"" ++ key ++ "\": 14, \"" ++ other ++ "\": 18\x7d"

/-- A member with a size of two digits. -/
def sizeMember (before : List Char) (isBlank : Json.IsBlank before) {key : List Char}
    (spells : Json.StringText key key) (digits : List Char) : Json.Member where
  before := before
  spelling := key
  name := key
  between := []
  item := ⟨[' '], digits, [], .number (.int (Text.decimalValue digits)), by decide, nofun⟩
  isBlankBefore := isBlank
  isBlankBetween := nofun
  spells := spells

theorem written_size {tens ones : Char} (isDigits : Json.IsDigits [tens, ones])
    (isShort : tens ≠ '0') :
    Json.Written 2 [tens, ones] (.number (.int (Text.decimalValue [tens, ones]))) := by
  have fits : Json.Numeral.Fits
      ⟨false, [tens, ones], [], none, isDigits, by simp [isShort], nofun⟩ 2 :=
    fun _ => Nat.le_refl 2
  exact .number fits

theorem objectText_sizesText {key other : String} (spells : Json.StringText key.toList key.toList)
    (otherSpells : Json.StringText other.toList other.toList) :
    Json.ObjectText 2 (sizesText key other).toList
      [(key, .number (.int 14)), (other, .number (.int 18))] := by
  let first := sizeMember [] nofun spells ['1', '4']
  let second := sizeMember [' '] (by decide) otherSpells ['1', '8']
  have written : ∀ member ∈ [first, second],
      Json.Written 2 member.item.text member.item.value := by
    refine List.forall_mem_cons.mpr ⟨?_, List.forall_mem_singleton.mpr ?_⟩
    · exact written_size (by decide) (by decide)
    · exact written_size (by decide) (by decide)
  have isBlank : Json.IsBlank [] := nofun
  have object := Json.ObjectText.intro isBlank isBlank isBlank written
  have text : [] ++ Json.objectText [] [first, second] ++ [] = (sizesText key other).toList := by
    simp [Json.objectText, Json.enclosed, Json.partsText, Json.Member.part, Json.Part.whole,
      Json.Item.part, Json.quoted, first, second, sizeMember, sizesText]
  have entries : [first, second].map Json.Member.entry =
      [(key, .number (.int 14)), (other, .number (.int 18))] := by
    simp [Json.Member.entry, first, second, sizeMember, Text.decimalValue]
  rwa [text, entries] at object

/-- A size in two spellings is refused; in one spelling its last value is loaded. -/
theorem load_objectText_sizes :
    let spelled := sizesText "fontSize" "font_size"
    let same := sizesText "fontSize" "fontSize"
    let base := snapshot {}
    (∃ error, base.load "settings.json" spelled.toUTF8.toList = .error error ∧
      error.kind = .value) ∧
    ∃ next, base.load "settings.json" same.toUTF8.toList = .ok next ∧
      next .fontSize = .number (.int 18) ∧ next .boldColor = base .boldColor := by
  intro spelled same base
  have spells : Json.StringText "fontSize".toList "fontSize".toList :=
    Json.stringText_self (by decide)
  have otherSpells : Json.StringText "font_size".toList "font_size".toList :=
    Json.stringText_self (by decide)
  have decoded : Text.Utf8.decode spelled.toUTF8.toList = .ok spelled.toList := by decide +kernel
  have decodedSame : Text.Utf8.decode same.toUTF8.toList = .ok same.toList := by decide +kernel
  obtain ⟨collides, -⟩ := load_objectText "settings.json" decoded
    (objectText_sizesText spells otherSpells)
  obtain ⟨-, loads, -⟩ := load_objectText "settings.json" decodedSame
    (objectText_sizesText spells spells)
  refine ⟨?_, ?_⟩
  · exact collides base .fontSize "fontSize" "font_size" (by decide) (by decide) (by decide)
      (by decide) (by decide)
  · have isOk : (base.load "settings.json" same.toUTF8.toList).isOk = true := by decide +kernel
    obtain ⟨next, loaded⟩ := isOk_iff.mp isOk
    obtain ⟨-, replaced⟩ := (loads (by decide) base next).mp loaded
    refine ⟨next, loaded, ?_, replaced.kept .boldColor (by decide)⟩
    exact replaced.given .fontSize "fontSize" _ ⟨[_], [], rfl, by decide⟩ (by decide)

/-- A size that is given twice under one name is loaded. -/
theorem load_repeated :
    let text := sizesText "fontSize" "fontSize"
    Text.Utf8.decode text.toUTF8.toList = .ok text.toList ∧
      Json.ObjectText 2 text.toList
        [("fontSize", .number (.int 14)), ("fontSize", .number (.int 18))] ∧
      load "settings.json" text.toUTF8.toList {} = .ok { fontSize := .int 18 } := by
  have spells : Json.StringText "fontSize".toList "fontSize".toList :=
    Json.stringText_self (by decide)
  refine ⟨by decide +kernel, objectText_sizesText spells spells, ?_⟩
  exact toOption_eq_some_iff.mp (by decide +kernel)

end Settings

end Typeset
