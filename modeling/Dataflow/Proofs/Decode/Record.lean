import Dataflow.Decode.FromJson
import Dataflow.Proofs.Decode.Faults
import Dataflow.Proofs.Keyed

/-!
# Reading records off objects

What is read off an object depends on what its entries give the fields of the record, and on nothing
else (`Record.Gives`): an entry with the name of the field gives what is read off its value, be it
`null`, and where there is no such entry the default is given. Entries that belong to no field are
passed over. If every field is given something, the record is put together from that
(`Record.read_object`, `Record.Gives.get_eq`).
-/

namespace Dataflow

variable {α β : Type}

/-- What is read item by item is a list of as many items. -/
lemma Json.readList_map {read : Json → Decoded α} {write : α → Json}
    (hread : ∀ a, read (write a) = .ok a) (items : List α) :
    Json.readList read (.array (items.map write)) = .ok items := by
  rw [Json.readList]
  induction items with
  | nil => rfl
  | cons a items ih =>
    rw [List.map_cons, List.mapM_cons, hread a, ih]
    rfl

namespace Record

variable {entries : Fields} {fields : List (FieldCheck Json)} {f : Field Json α} {a : α}

/-- The entries of an object give a field a value: it is read off the entry with the name of the
field, or it is the default and there is no such entry. -/
inductive Gives (entries : Fields) (f : Field Json α) (a : α) : Prop
  | entry (v : Json) (hvalue : Keyed.value? entries f.name = some v) (hread : f.read v = .ok a)
  | default (hvalue : Keyed.value? entries f.name = none) (hdefault : f.default? = some a)

/-- The entry of a field without other names is found by its name. -/
lemma find?_entry (hf : f.aliases = []) :
    (entries.find? fun entry => f.toCheck.answersTo entry.1) =
      (Keyed.value? entries f.name).map fun v => (f.name, v) := by
  induction entries with
  | nil => rfl
  | cons entry entries ih =>
    obtain ⟨key, v⟩ := entry
    rw [List.find?_cons, answersTo_eq hf, Keyed.value?, List.lookup_cons]
    by_cases hkey : f.name = key
    · subst hkey
      simp [Field.toCheck]
    · have hname : (f.toCheck.name == key) = false := by simpa [Field.toCheck] using hkey
      simp only [hname, beq_false_of_ne hkey]
      exact ih

/-- What a field is given is got for it. -/
lemma Gives.get_eq (hf : f.aliases = []) (hgives : Gives entries f a) (name : String)
    (stop : Option Mismatch) :
    (Source.mk name fields (.named entries stop)).get f = .ok a := by
  rw [Source.get]
  simp only [find?_entry hf]
  cases hgives with
  | entry v hvalue hread => simp only [hvalue, Option.map_some, hread]
  | default hvalue hdefault => simp only [hvalue, Option.map_none, hdefault]

/-- What is got for a field is what the entries give it. -/
lemma gives_of_get {name : String} {stop : Option Mismatch} (hf : f.aliases = [])
    (hget : (Source.mk name fields (.named entries stop)).get f = .ok a) : Gives entries f a := by
  rw [Source.get] at hget
  simp only [find?_entry hf] at hget
  cases hvalue : Keyed.value? entries f.name with
  | some v =>
    rw [hvalue] at hget
    exact .entry v hvalue hget
  | none =>
    rw [hvalue] at hget
    cases hdefault : f.default? with
    | some d =>
      simp only [Option.map_none, hdefault] at hget
      exact .default hvalue (hdefault.trans (congrArg some (Except.ok.inj hget)))
    | none =>
      simp only [Option.map_none, hdefault] at hget
      cases hget

/-- The field has no other names, and what the entries hold for it passes its check. -/
structure Passes (entries : Fields) (f : FieldCheck Json) : Prop where
  aliases : f.aliases = []
  check : ∀ v, Keyed.value? entries f.name = some v → f.check v = .ok ()

/-- What gives a field a value passes the check of the field. -/
lemma Gives.passes (hf : f.aliases = []) (hgives : Gives entries f a) :
    Passes entries f.toCheck where
  aliases := hf
  check := fun v hv => by
    cases hgives with
    | entry v' hvalue hread =>
      obtain rfl : v' = v := Option.some.inj (hvalue.symm.trans hv)
      simp only [Field.toCheck, hread]
      rfl
    | default hvalue hdefault => cases hvalue.symm.trans hv

/-- The members of an object pass together if they pass for each field. -/
lemma checkMembers_eq_ok {members : Fields} {seen : List String}
    (hdistinct : (members.map Prod.fst).Nodup) (hmembers : ∀ entry ∈ members, entry ∈ entries)
    (hentries : Keyed.Sorted entries) (hfields : ∀ f ∈ fields, Passes entries f)
    (hseen : ∀ key ∈ members.map Prod.fst, key ∉ seen) :
    checkMembers fields none seen members = .ok () := by
  induction members generalizing seen with
  | nil => rfl
  | cons entry members ih =>
    obtain ⟨key, v⟩ := entry
    obtain ⟨hkey, hothers⟩ := List.nodup_cons.mp hdistinct
    obtain ⟨hunseen, hunseens⟩ := List.forall_mem_cons.mp hseen
    obtain ⟨hentry, hrest⟩ := List.forall_mem_cons.mp hmembers
    rw [checkMembers]
    split
    · exact ih hothers hrest hunseens
    · rename_i f hfind
      have hf := hfields f (List.mem_of_find?_eq_some hfind)
      obtain rfl : f.name = key := by
        simpa [answersTo_eq hf.aliases] using List.find?_some hfind
      rw [if_neg (by simpa using hunseen), hf.check v (hentries.mem_iff.mp hentry)]
      refine ih hothers hrest fun other hother hmem => ?_
      rcases List.mem_cons.mp hmem with rfl | hmem
      · exact hkey hother
      · exact hunseens other hother hmem

/-- A record is read off an object by putting it together, if the entries pass for each field. -/
lemma read_object {name : String} {build : Source Json → Decoded β}
    (hentries : Keyed.Sorted entries) (hfields : ∀ f ∈ fields, Passes entries f) :
    read name fields build (.object entries) = build ⟨name, fields, .named entries none⟩ := by
  have hread : read name fields build (.object entries) =
      (checkMembers fields none [] entries).bind
        fun _ => build ⟨name, fields, .named entries none⟩ := rfl
  rw [hread, checkMembers_eq_ok hentries.nodup (fun _ h => h) hentries hfields (by simp)]
  rfl

end Record

end Dataflow
