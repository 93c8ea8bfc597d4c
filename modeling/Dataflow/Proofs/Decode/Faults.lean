import Dataflow.Decode.Record
import Dataflow.Proofs.Results

/-!
# What can be wrong with a record

A record that is read from named members fails for one of a few reasons (`Record.Fault`): the
members break off, one of them cannot be passed over, is there twice or has a bad value, or a field
without a default is not among them.
-/

namespace Dataflow.Record

variable {V α : Type}

/-- A field without other names answers to its own. -/
lemma answersTo_eq {f : FieldCheck V} (hf : f.aliases = []) (key : String) :
    f.answersTo key = (f.name == key) := by
  simp [FieldCheck.answersTo, hf]

variable [Readable V] {name : String} {fields : List (FieldCheck V)}
  {required seen : List String} {stop : Option Mismatch} {entries : List (String × V)}
  {f : Field V α} {m : Mismatch}

/-- Why a record with the given fields cannot be read from named members, if the required ones among
the fields are those with the given names. -/
inductive Fault (fields : List (FieldCheck V)) (required : List String)
    (entries : List (String × V)) (stop : Option Mismatch) : Mismatch → Prop
  | stopped {m : Mismatch} (hstop : stop = some m) : Fault fields required entries stop m
  | skipped {entry : String × V} {m : Mismatch} (hentry : entry ∈ entries)
    (hskip : Readable.skip entry.2 = .error m) : Fault fields required entries stop m
  | repeated {f : FieldCheck V} (hf : f ∈ fields) :
    Fault fields required entries stop (.duplicateField f.name)
  | value {f : FieldCheck V} {entry : String × V} {m : Mismatch} (hf : f ∈ fields)
    (hentry : entry ∈ entries) (hname : f.answersTo entry.1 = true)
    (hcheck : f.check entry.2 = .error m) : Fault fields required entries stop m
  | missing {field : String} (hrequired : field ∈ required) (hstop : stop = none)
    (hnone : ∀ entry ∈ entries, entry.1 ≠ field) :
    Fault fields required entries stop (.missingField field)

/-- Members fail together for a reason. -/
lemma fault_of_checkMembers {members : List (String × V)}
    (hmembers : ∀ entry ∈ members, entry ∈ entries)
    (h : checkMembers fields stop seen members = .error m) :
    Fault fields required entries stop m := by
  induction members generalizing seen with
  | nil =>
    cases stop with
    | none => cases h
    | some m' =>
      cases h
      exact .stopped rfl
  | cons entry members ih =>
    obtain ⟨key, v⟩ := entry
    obtain ⟨hentry, hrest⟩ := List.forall_mem_cons.mp hmembers
    rw [checkMembers] at h
    split at h
    · rcases error_of_bind h with hskip | ⟨-, -, h⟩
      · exact .skipped hentry hskip
      · exact ih hrest h
    · rename_i f hfind
      have hf := List.mem_of_find?_eq_some hfind
      have hname := List.find?_some hfind
      split at h
      · cases h
        exact .repeated hf
      · rcases error_of_bind h with hcheck | ⟨-, -, h⟩
        · exact .value hf hentry hname hcheck
        · exact ih hrest h

/-- Members pass together only if none breaks off and each passes for the field that it is for. -/
lemma of_checkMembers (h : checkMembers fields stop seen entries = .ok ()) :
    stop = none ∧ ∀ entry ∈ entries, ∀ f, fields.find? (·.answersTo entry.1) = some f →
      f.check entry.2 = .ok () := by
  induction entries generalizing seen with
  | nil =>
    cases stop with
    | none => exact ⟨rfl, nofun⟩
    | some m => cases h
  | cons entry entries ih =>
    obtain ⟨key, v⟩ := entry
    rw [checkMembers] at h
    split at h
    · rename_i hfind
      obtain ⟨-, -, h⟩ := ok_of_bind h
      obtain ⟨hstop, hrest⟩ := ih h
      refine ⟨hstop, List.forall_mem_cons.mpr ⟨fun f hf => ?_, hrest⟩⟩
      cases hfind.symm.trans hf
    · rename_i f hfind
      split at h
      · cases h
      · obtain ⟨_, hcheck, h⟩ := ok_of_bind h
        obtain ⟨hstop, hrest⟩ := ih h
        refine ⟨hstop, List.forall_mem_cons.mpr ⟨fun f' hf' => ?_, hrest⟩⟩
        obtain rfl := Option.some.inj (hfind.symm.trans hf')
        exact hcheck

/-- A field cannot be got for a reason. -/
lemma fault_of_get (hf : f.toCheck ∈ fields) (hrequired : f.default? = none → f.name ∈ required)
    (h : (Source.mk name fields (.named entries none)).get f = .error m) :
    Fault fields required entries none m := by
  rw [Source.get] at h
  dsimp only at h
  split at h
  · rename_i key v hfind
    have hname := List.find?_some hfind
    have hcheck : f.toCheck.check v = .error m := congrArg (Except.map fun _ => ()) h
    exact .value hf (List.mem_of_find?_eq_some hfind) hname hcheck
  · rename_i hfind
    split at h
    · cases h
    · rename_i hdefault
      cases h
      refine .missing (hrequired hdefault) rfl fun entry hentry hname => ?_
      have hnot := List.find?_eq_none.mp hfind entry hentry
      simp [FieldCheck.answersTo, Field.toCheck, hname] at hnot

/-- A record that takes one more field fails for the sake of this field, or later. -/
lemma fault_of_bind {β : Type} {next : α → Decoded β} (hf : f.toCheck ∈ fields)
    (hrequired : f.default? = none → f.name ∈ required)
    (h : ((Source.mk name fields (.named entries none)).get f >>= next) = .error m)
    (hnext : ∀ a, next a = .error m → Fault fields required entries none m) :
    Fault fields required entries none m := by
  rcases error_of_bind h with h | ⟨a, -, h⟩
  · exact fault_of_get hf hrequired h
  · exact hnext a h

/-- A record is read from named members if they pass together and it can be put together. -/
lemma of_decode {build : Source V → Decoded α} {a : α}
    (h : decode name fields (.named entries stop) build = .ok a) :
    stop = none ∧ ∀ entry ∈ entries, ∀ f, fields.find? (·.answersTo entry.1) = some f →
      f.check entry.2 = .ok () := by
  obtain ⟨_, hcheck, -⟩ := ok_of_bind h
  exact of_checkMembers hcheck

/-- A record cannot be read from named members for a reason. -/
lemma fault_of_decode {build : Source V → Decoded α}
    (hbuild : ∀ m, build ⟨name, fields, .named entries none⟩ = .error m →
      Fault fields required entries none m)
    (h : decode name fields (.named entries stop) build = .error m) :
    Fault fields required entries stop m := by
  rcases error_of_bind h with h | ⟨_, hcheck, h⟩
  · exact fault_of_checkMembers (fun _ h => h) h
  · obtain ⟨rfl, -⟩ := of_checkMembers hcheck
    exact hbuild m h

end Dataflow.Record
