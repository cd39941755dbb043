import Registrar.Proofs.Tables
import Registrar.Registry.Basic
/-!
# What a registry holds

Records are ordered tables of fields, so that a record is determined by its values
(`Record.ext_of_get?`); the records of a channel and the packages of a registry are tables by
appearance (`updateRecords_eq`, `updatePackages_eq`); the imports of a channel ascend and hold what
has been added (`mem_insertSorted`, `insertSorted_ascending`).
-/
namespace Registrar

/-! ## Records -/

namespace Record

/-- The fields stand in the order of their names, each once. -/
def Ordered (r : Record) : Prop := Table.Ascending r.fields

theorem ordered_empty : Ordered {} := List.Pairwise.nil

theorem putField_eq (field value : String) (l : List (String × String)) :
    putField field value l = Table.enter field value l := by
  induction l with
  | nil => rfl
  | cons e l ih =>
    obtain ⟨f, v⟩ := e
    rw [putField, Table.enter, ih]

theorem get?_put (r : Record) (field value f : String) :
    (r.put field value).get? f = if f = field then some value else r.get? f := by
  simp only [get?, put, putField_eq]
  exact Table.lookup_enter field f value r.fields

theorem get?_putIfAbsent (r : Record) (field value f : String) :
    (r.putIfAbsent field value).get? f = if f = field then (r.get? f).or (some value) else r.get? f := by
  unfold putIfAbsent
  by_cases h : f = field
  · subst h
    cases hr : r.get? f with
    | none => simp [get?_put]
    | some v => simp [hr]
  · rw [if_neg h]
    split
    · rfl
    · rw [get?_put, if_neg h]

theorem Ordered.put {r : Record} (h : r.Ordered) (field value : String) : (r.put field value).Ordered := by
  simp only [Ordered, Record.put, putField_eq]
  exact Table.Ascending.enter h field value

theorem Ordered.putIfAbsent {r : Record} (h : r.Ordered) (field value : String) :
    (r.putIfAbsent field value).Ordered := by
  unfold Record.putIfAbsent
  split
  · exact h
  · exact h.put field value

/-- An ordered record is determined by the values of its fields. -/
theorem ext_of_get? {r r' : Record} (h : r.Ordered) (h' : r'.Ordered)
    (he : ∀ f, r.get? f = r'.get? f) : r = r' := by
  cases r
  cases r'
  congr 1
  exact Table.eq_of_lookup_eq h h' he

end Record

/-! ## Imports -/

theorem mem_insertSorted {s x : String} {l : List String} : x ∈ insertSorted s l ↔ x = s ∨ x ∈ l := by
  induction l with
  | nil => simp [insertSorted]
  | cons t ts ih =>
    unfold insertSorted
    split
    · simp
    · split
      · rename_i h
        simp [h]
      · simp only [List.mem_cons, ih]
        tauto

theorem insertSorted_ascending {s : String} {l : List String} (h : l.Pairwise (· < ·)) :
    (insertSorted s l).Pairwise (· < ·) := by
  induction l with
  | nil => exact List.pairwise_singleton _ _
  | cons t ts ih =>
    obtain ⟨ht, hts⟩ := List.pairwise_cons.1 h
    unfold insertSorted
    split
    · rename_i hlt
      refine List.pairwise_cons.2 ⟨fun x hx => ?_, h⟩
      rcases List.mem_cons.1 hx with rfl | hx
      · exact hlt
      · exact String.lt_trans hlt (ht x hx)
    · split
      · exact h
      · rename_i hnlt hne
        have hgt : t < s :=
          Classical.byContradiction fun hn => hne (Std.Trichotomous.trichotomous s t hnlt hn)
        refine List.pairwise_cons.2 ⟨fun x hx => ?_, ih hts⟩
        rcases mem_insertSorted.1 hx with rfl | hx
        · exact hgt
        · exact ht x hx

/-- Two ascending lists with the same members are the same. -/
theorem eq_of_ascending {l l' : List String} (h : l.Pairwise (· < ·)) (h' : l'.Pairwise (· < ·))
    (he : ∀ x, x ∈ l ↔ x ∈ l') : l = l' := by
  have hn : ∀ {m : List String}, m.Pairwise (· < ·) → m.Nodup := by
    intro m hm
    refine hm.imp ?_
    rintro a _ hab rfl
    exact String.lt_irrefl a hab
  refine List.Perm.eq_of_pairwise (fun a b _ _ hab hba => ?_) h h'
    ((List.perm_ext_iff_of_nodup (hn h) (hn h')).2 he)
  exact absurd (String.lt_trans hab hba) (String.lt_irrefl a)

theorem foldl_insertSorted_ascending {l acc : List String} (h : acc.Pairwise (· < ·)) :
    (l.foldl (fun acc s => insertSorted s acc) acc).Pairwise (· < ·) := by
  induction l generalizing acc with
  | nil => exact h
  | cons s l ih => exact ih (insertSorted_ascending h)

theorem mem_foldl_insertSorted {l acc : List String} {x : String} :
    x ∈ l.foldl (fun acc s => insertSorted s acc) acc ↔ x ∈ l ∨ x ∈ acc := by
  induction l generalizing acc with
  | nil => simp
  | cons s l ih =>
    rw [List.foldl_cons, ih, mem_insertSorted, List.mem_cons]
    tauto

theorem foldl_insertSorted (l : List String) :
    l.foldl (fun acc s => insertSorted s acc) [] = l.eraseDups.mergeSort fun a b => decide (a ≤ b) := by
  refine eq_of_ascending (foldl_insertSorted_ascending List.Pairwise.nil) ?_ fun x => ?_
  · -- sorted without repetition is strictly ascending
    have hle : (l.eraseDups.mergeSort fun a b => decide (a ≤ b)).Pairwise fun a b => a ≤ b := by
      refine (List.pairwise_mergeSort ?_ ?_ _).imp of_decide_eq_true
      · intro a b c hab hbc
        exact decide_eq_true (String.le_trans (of_decide_eq_true hab) (of_decide_eq_true hbc))
      · intro a b
        rcases String.le_total a b with h | h <;> simp [h]
    have hne : (l.eraseDups.mergeSort fun a b => decide (a ≤ b)).Nodup :=
      (List.mergeSort_perm _ _).nodup_iff.2 (Table.nodup_eraseDups l)
    refine hle.imp₂ (fun a b hab hne => ?_) hne
    exact Classical.byContradiction fun hn =>
      hne (Std.Trichotomous.trichotomous a b hn (String.not_lt.2 hab))
  · rw [mem_foldl_insertSorted, List.mem_mergeSort, List.mem_eraseDups]
    simp

/-! ## Channels and packages -/

theorem ChannelEntries.eq_mk {e : ChannelEntries} {imports : List String}
    {records : List (String × Record)} (hi : e.imports = imports) (hr : e.records = records) :
    e = ⟨imports, records⟩ := by
  rw [← hi, ← hr]

theorem ChannelEntries.updateRecords_eq (key : String) (f : Record → Record)
    (l : List (String × Record)) :
    updateRecords key f l =
      Table.adjust Prod.fst (fun k => (k, {})) key (fun e => (e.1, f e.2)) l := by
  induction l with
  | nil => rfl
  | cons e l ih =>
    obtain ⟨k, r⟩ := e
    rw [updateRecords, Table.adjust, ih]

namespace PackageEntries

theorem channel_empty (name directory framework : String) (c : Channel) :
    (empty name directory framework).channel c = ({} : ChannelEntries).addImport framework := by
  cases c <;> simp only [empty, channel]

@[simp] theorem channel_updateChannel (p : PackageEntries) (c d : Channel)
    (f : ChannelEntries → ChannelEntries) :
    (p.updateChannel c f).channel d = if d = c then f (p.channel d) else p.channel d := by
  cases c <;> cases d <;> rfl

@[simp] theorem name_updateChannel (p : PackageEntries) (c : Channel)
    (f : ChannelEntries → ChannelEntries) : (p.updateChannel c f).name = p.name := by
  cases c <;> rfl

@[simp] theorem directory_updateChannel (p : PackageEntries) (c : Channel)
    (f : ChannelEntries → ChannelEntries) : (p.updateChannel c f).directory = p.directory := by
  cases c <;> rfl

theorem ext_of_channel {p q : PackageEntries} (hn : p.name = q.name) (hd : p.directory = q.directory)
    (hc : ∀ c, p.channel c = q.channel c) : p = q := by
  cases p
  cases q
  simp only [mk.injEq]
  exact ⟨hn, hd, hc .http, hc .tcp, hc .udp⟩

/-- What tells packages apart. -/
def identity (p : PackageEntries) : String × String := (p.name, p.directory)

end PackageEntries

theorem Registry.get?_eq_find? (r : Registry) (name directory : String) :
    r.get? name directory = r.packages.find? fun e => e.identity = (name, directory) := by
  rw [get?]
  congr 1
  funext e
  simp only [PackageEntries.isAt, PackageEntries.identity, Prod.mk.injEq, Bool.decide_and]
  rfl

theorem Registry.updatePackages_eq (name directory framework : String)
    (f : PackageEntries → PackageEntries) (l : List PackageEntries) :
    updatePackages name directory framework f l =
      Table.adjust PackageEntries.identity (fun k => PackageEntries.empty k.1 k.2 framework)
        (name, directory) f l := by
  induction l with
  | nil => rfl
  | cons p l ih =>
    rw [updatePackages, Table.adjust, ih]
    simp only [PackageEntries.isAt, PackageEntries.identity, Bool.and_eq_true, beq_iff_eq, Prod.mk.injEq]

end Registrar
