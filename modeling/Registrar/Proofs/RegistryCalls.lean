import Mathlib.Data.List.Nodup
import Registrar.Proofs.ByteOrder
import Registrar.Proofs.Registry
import Registrar.Proofs.Text
/-!
# A registry under calls

A registry is changed by calls that name a package and what is done to it: its imports, a record, or a
field of a record. Whatever the calls, each channel lists its records once, in the order in which their
keys were first named, and its imports once, as quoted paths in the order of their bytes; each package
stands once, at a position that it keeps; and a call leaves alone what it does not name
(`calls_keep_consistent`).
-/
namespace Registrar

/-! ## Quoted paths -/

namespace Text

theorem head?_dropAround {p : Char → Bool} {s : List Char} {c : Char}
    (h : (dropAround p s).head? = some c) : p c = false := by
  have hprefix : dropAround p s <+: s.dropWhile p := by
    rw [dropAround, dropEndWhile, ← List.reverse_suffix, List.reverse_reverse]
    exact List.dropWhile_suffix p
  obtain ⟨rest, hrest⟩ := hprefix
  have hhead : (s.dropWhile p).head? = some c := by
    rw [← hrest, List.head?_append, h, Option.some_or]
  have hnot := List.head?_dropWhile_not p s
  rw [hhead] at hnot
  simpa using hnot

theorem getLast?_dropAround {p : Char → Bool} {s : List Char} {c : Char}
    (h : (dropAround p s).getLast? = some c) : p c = false := by
  rw [dropAround, dropEndWhile, List.getLast?_reverse] at h
  have hnot := List.head?_dropWhile_not p (s.dropWhile p).reverse
  rw [h] at hnot
  simpa using hnot

/-- What is put around a text is dropped from around it. -/
theorem dropAround_append {p : Char → Bool} {a s b : List Char} (ha : ∀ c ∈ a, p c = true)
    (hb : ∀ c ∈ b, p c = true) (hs : s ≠ []) (hhead : ∀ c, s.head? = some c → p c = false)
    (hlast : ∀ c, s.getLast? = some c → p c = false) : dropAround p (a ++ s ++ b) = s := by
  have hkeep : ∀ {t u : List Char}, t ≠ [] → (∀ c, t.head? = some c → p c = false) →
      (t ++ u).dropWhile p = t ++ u := by
    intro t u ht hhead
    obtain ⟨c, t, rfl⟩ := List.exists_cons_of_ne_nil ht
    exact List.dropWhile_cons_of_neg (by simp [hhead c rfl])
  have hdrop : ∀ {t u : List Char}, (∀ c ∈ t, p c = true) → (t ++ u).dropWhile p = u.dropWhile p := by
    intro t u ht
    exact List.dropWhile_append_of_pos ht
  rw [dropAround, dropEndWhile, List.append_assoc, hdrop ha, hkeep hs hhead, List.reverse_append,
    hdrop (by simpa using hb)]
  have hback := hkeep (t := s.reverse) (u := []) (by simpa using hs)
    (by simpa [List.head?_reverse] using hlast)
  rw [List.append_nil] at hback
  rw [hback, List.reverse_reverse]

end Text

/-- A path that is not empty and has no quote at either end. -/
structure IsBarePath (path : String) : Prop where
  nonempty : path ≠ ""
  head : path.toList.head? ≠ some '"'
  last : path.toList.getLast? ≠ some '"'

/-- An import as it is kept: a path between double quotes. -/
def IsQuotedPath (entry : String) : Prop := ∃ path, IsBarePath path ∧ entry = "\"" ++ path ++ "\""

theorem IsQuotedPath.ne_empty {entry : String} (h : IsQuotedPath entry) : entry ≠ "" := by
  obtain ⟨path, -, rfl⟩ := h
  intro hempty
  simpa using congrArg String.toList hempty

namespace ChannelEntries

theorem isBarePath_importPath {raw : String} (h : importPath raw ≠ "") :
    IsBarePath (importPath raw) where
  nonempty := h
  head hquote := by
    rw [importPath, Text.onChars, String.toList_ofList] at hquote
    simpa [Text.isQuote] using Text.head?_dropAround hquote
  last hquote := by
    rw [importPath, Text.onChars, String.toList_ofList] at hquote
    simpa [Text.isQuote] using Text.getLast?_dropAround hquote

/-- An import that is kept stands for its own path. -/
theorem importPath_quoted {path : String} (h : IsBarePath path) :
    importPath ("\"" ++ path ++ "\"") = path := by
  have hchars : ("\"" ++ path ++ "\"").toList = ['"'] ++ path.toList ++ ['"'] := by simp
  have hquote : Text.isBlank '"' = false := by decide
  have htrim : Text.trim (['"'] ++ path.toList ++ ['"']) = ['"'] ++ path.toList ++ ['"'] := by
    refine Text.trim_eq_self_iff.2 ⟨Text.solid_cons hquote _, ?_⟩
    rw [List.reverse_append]
    exact Text.solid_cons hquote _
  rw [importPath, Text.onChars, hchars, htrim, Text.dropQuotes, Text.dropAround_append,
    String.ofList_toList]
  · simp [Text.isQuote]
  · simp [Text.isQuote]
  · exact fun hnil => h.nonempty (String.toList_inj.1 hnil)
  · rintro c hc
    simpa [Text.isQuote] using fun he : c = '"' => h.head (he ▸ hc)
  · rintro c hc
    simpa [Text.isQuote] using fun he : c = '"' => h.last (he ▸ hc)

end ChannelEntries

theorem insertSorted_of_mem {s : String} {l : List String} (hl : l.Pairwise (· < ·)) (hs : s ∈ l) :
    insertSorted s l = l := by
  refine eq_of_ascending (insertSorted_ascending hl) hl fun x => ?_
  rw [mem_insertSorted]
  constructor
  · rintro (rfl | hx)
    · exact hs
    · exact hx
  · exact .inr

/-! ## Channels -/

namespace ChannelEntries

theorem records_addImport (e : ChannelEntries) (path : String) : (e.addImport path).records = e.records := by
  unfold addImport
  dsimp only
  split <;> rfl

theorem keys_addImport (e : ChannelEntries) (path : String) : (e.addImport path).keys = e.keys := by
  rw [keys, records_addImport, keys]

theorem keys_update (e : ChannelEntries) (key : String) (f : Record → Record) :
    (e.update key f).keys = if key ∈ e.keys then e.keys else e.keys ++ [key] := by
  rw [keys, update, updateRecords_eq]
  split
  · rename_i h
    refine Table.keys_adjust_of_mem ?_ h
    exact fun _ => rfl
  · rename_i h
    refine Table.keys_adjust_of_not_mem ?_ ?_ h
    · exact fun _ => rfl
    · exact fun _ => rfl

theorem record?_update (e : ChannelEntries) (key k : String) (f : Record → Record) :
    (e.update key f).record? k =
      if k = key then some (f ((e.record? key).getD {})) else e.record? k := by
  have hfind : (updateRecords key f e.records).find? (fun x => x.1 = k) =
      if k = key then some (key, f ((e.record? key).getD {})) else e.records.find? fun x => x.1 = k := by
    rw [updateRecords_eq, record?, Table.lookup_eq_find?]
    refine (Table.find?_adjust ?_ ?_ key k e.records).trans ?_
    · exact fun _ => rfl
    · exact fun _ => rfl
    · cases hr : e.records.find? fun x => x.1 = key with
      | none => rfl
      | some x =>
        have hx : x.1 = key := by simpa using List.find?_some hr
        simp [hx]
  rw [record?, update, Table.lookup_eq_find?, hfind]
  by_cases h : k = key
  · rw [if_pos h, if_pos h, Option.map_some]
  · rw [if_neg h, if_neg h, record?, Table.lookup_eq_find?]

/-- What is true of a channel whatever calls have been made. -/
structure Sound (e : ChannelEntries) : Prop where
  keys : e.keys.Nodup
  ascending : e.imports.Pairwise (· < ·)
  quoted : ∀ entry ∈ e.imports, IsQuotedPath entry

theorem sound_empty : Sound {} := ⟨List.nodup_nil, List.Pairwise.nil, fun _ h => nomatch h⟩

theorem Sound.addImport {e : ChannelEntries} (h : e.Sound) (path : String) : (e.addImport path).Sound := by
  unfold ChannelEntries.addImport
  dsimp only
  split
  · exact h
  · rename_i hpath
    refine ⟨h.keys, insertSorted_ascending h.ascending, fun entry hentry => ?_⟩
    rcases mem_insertSorted.1 hentry with rfl | hold
    · exact ⟨importPath path, isBarePath_importPath (by simpa using hpath), rfl⟩
    · exact h.quoted entry hold

theorem Sound.update {e : ChannelEntries} (h : e.Sound) (key : String) (f : Record → Record) :
    (e.update key f).Sound := by
  refine ⟨?_, h.ascending, h.quoted⟩
  rw [keys_update]
  split
  · exact h.keys
  · rename_i hkey
    exact List.nodup_append.2 ⟨h.keys, List.nodup_singleton key, by
      rintro a ha b hb rfl
      exact hkey (List.mem_singleton.1 hb ▸ ha)⟩

/-- Keys, records and imports of a channel agree: the keys are those that have a record, each once, so
that the records in the order of the keys are all records; the imports are quoted paths in the order of
their bytes, and one that is there can be added again without effect. -/
structure Consistent (e : ChannelEntries) : Prop where
  keys_nodup : e.keys.Nodup
  mem_keys_iff : ∀ key, key ∈ e.keys ↔ (e.record? key).isSome
  records_eq : e.records = e.keys.filterMap fun key => (e.record? key).map fun r => (key, r)
  imports_ascending : e.imports.Pairwise fun a b => Text.Utf8.encode a < Text.Utf8.encode b
  imports_quoted : ∀ entry ∈ e.imports, IsQuotedPath entry
  addImport_again : ∀ entry ∈ e.imports, e.addImport entry = e

theorem Sound.consistent {e : ChannelEntries} (h : e.Sound) : e.Consistent where
  keys_nodup := h.keys
  mem_keys_iff key := by
    rw [record?, Table.lookup_eq_find?, Option.isSome_map, List.find?_isSome, ChannelEntries.keys,
      List.mem_map]
    simp
  records_eq := (Table.filterMap_lookup h.keys).symm
  imports_ascending := h.ascending.imp Text.Utf8.encode_lt_iff.2
  imports_quoted := h.quoted
  addImport_again entry hentry := by
    obtain ⟨path, hpath, hquoted⟩ := h.quoted entry hentry
    unfold ChannelEntries.addImport
    dsimp only
    rw [hquoted, importPath_quoted hpath, if_neg (by simpa using hpath.nonempty), ← hquoted,
      insertSorted_of_mem h.ascending hentry]

/-- The records of a channel are those of its keys. -/
theorem Consistent.records_eq_map {e : ChannelEntries} (h : e.Consistent) :
    e.records = e.keys.map fun key => (key, (e.record? key).getD {}) := by
  conv_lhs => rw [h.records_eq]
  rw [← List.filterMap_eq_map]
  refine List.filterMap_congr fun key hkey => ?_
  obtain ⟨r, hr⟩ := Option.isSome_iff_exists.1 ((h.mem_keys_iff key).1 hkey)
  rw [Function.comp_apply, hr]
  rfl

end ChannelEntries

/-! ## Calls -/

namespace Registry

/-- What is done to a package. -/
inductive Change where
  /-- The package is looked up, and made when it is not there. -/
  | visit
  | addImport (c : Channel) (path : String)
  /-- The record of a key is looked up, and made when it is not there. -/
  | ensure (c : Channel) (key : String)
  | put (c : Channel) (key field value : String)
  | putIfAbsent (c : Channel) (key field value : String)

namespace Change

def apply : Change → PackageEntries → PackageEntries
  | visit, p => p
  | addImport c path, p => p.updateChannel c (·.addImport path)
  | ensure c key, p => p.updateChannel c (·.ensure key)
  | put c key field value, p => p.updateChannel c (·.update key (·.put field value))
  | putIfAbsent c key field value, p => p.updateChannel c (·.update key (·.putIfAbsent field value))

/-- The channel that is changed. -/
def channel? : Change → Option Channel
  | visit => none
  | addImport c _ | ensure c _ | put c _ _ _ | putIfAbsent c _ _ _ => some c

/-- The key whose record is looked up or changed. -/
def key? : Change → Option String
  | visit | addImport _ _ => none
  | ensure _ key | put _ key _ _ | putIfAbsent _ key _ _ => some key

/-- What is done to the record of the key. -/
def onRecord : Change → Record → Record
  | visit, r | addImport _ _, r | ensure _ _, r => r
  | put _ _ field value, r => r.put field value
  | putIfAbsent _ _ field value, r => r.putIfAbsent field value

/-- The ways in which a change treats one channel. -/
theorem channel_apply (x : Change) (p : PackageEntries) (c : Channel) :
    (x.channel? ≠ some c ∧ (x.apply p).channel c = p.channel c) ∨
    (x.channel? = some c ∧ x.key? = none ∧
      ∃ path, (x.apply p).channel c = (p.channel c).addImport path) ∨
    (x.channel? = some c ∧
      ∃ key, x.key? = some key ∧ (x.apply p).channel c = (p.channel c).update key x.onRecord) := by
  cases x with
  | visit => exact .inl ⟨by simp [channel?], rfl⟩
  | addImport d path =>
    by_cases h : c = d
    · exact .inr (.inl ⟨by simp [channel?, h], rfl, path, by simp [apply, h]⟩)
    · exact .inl ⟨by simp [channel?, Ne.symm h], by simp [apply, h]⟩
  | ensure d key | put d key _ _ | putIfAbsent d key _ _ =>
    by_cases h : c = d
    · refine .inr (.inr ⟨by simp [channel?, h], key, rfl, ?_⟩)
      simp only [apply, h, PackageEntries.channel_updateChannel, if_true]
      rfl
    · exact .inl ⟨by simp [channel?, Ne.symm h], by simp [apply, h]⟩

theorem identity_apply (x : Change) (p : PackageEntries) : (x.apply p).identity = p.identity := by
  cases x <;> simp [apply, PackageEntries.identity]

end Change

/-- A call: the package it names, what a new package imports, and what is done. -/
structure Call where
  name : String
  directory : String
  framework : String
  change : Change

def Call.apply (r : Registry) (x : Call) : Registry :=
  r.update x.name x.directory x.framework x.change.apply

/-- The package of a call before it: a new one when it is not there. -/
def Call.before (x : Call) (r : Registry) : PackageEntries :=
  (r.get? x.name x.directory).getD (PackageEntries.empty x.name x.directory x.framework)

theorem identities_apply (r : Registry) (x : Call) :
    (x.apply r).packages.map PackageEntries.identity =
      if (x.name, x.directory) ∈ r.packages.map PackageEntries.identity then
        r.packages.map PackageEntries.identity
      else r.packages.map PackageEntries.identity ++ [(x.name, x.directory)] := by
  rw [Call.apply, update, updatePackages_eq]
  split
  · rename_i h
    exact Table.keys_adjust_of_mem x.change.identity_apply h
  · rename_i h
    refine Table.keys_adjust_of_not_mem ?_ x.change.identity_apply h
    exact fun _ => rfl

theorem get?_apply (r : Registry) (x : Call) (name directory : String) :
    (x.apply r).get? name directory =
      if (name, directory) = (x.name, x.directory) then some (x.change.apply (x.before r))
      else r.get? name directory := by
  have hfind : (updatePackages x.name x.directory x.framework x.change.apply r.packages).find?
        (fun e => e.identity = (name, directory)) =
      if (name, directory) = (x.name, x.directory) then
        some (x.change.apply ((r.packages.find? fun e => e.identity = (x.name, x.directory)).getD
          (PackageEntries.empty x.name x.directory x.framework)))
      else r.packages.find? fun e => e.identity = (name, directory) := by
    rw [updatePackages_eq]
    refine Table.find?_adjust ?_ x.change.identity_apply (x.name, x.directory) (name, directory) r.packages
    exact fun _ => rfl
  rw [get?_eq_find?, get?_eq_find?, Call.before, get?_eq_find?]
  exact hfind

/-! ## What calls keep -/

/-- What is true of a registry whatever calls have been made. -/
structure Sound (r : Registry) : Prop where
  identities : (r.packages.map PackageEntries.identity).Nodup
  channels : ∀ p ∈ r.packages, ∀ c, (p.channel c).Sound

theorem sound_empty : Sound {} := ⟨List.nodup_nil, fun _ h => nomatch h⟩

/-- A package that stands once is found by its name and directory. -/
theorem get?_eq_some_iff {r : Registry} (h : (r.packages.map PackageEntries.identity).Nodup)
    {name directory : String} {p : PackageEntries} :
    r.get? name directory = some p ↔ p ∈ r.packages ∧ p.identity = (name, directory) := by
  have hfound := Table.filter_eq_find? PackageEntries.identity h (name, directory)
  rw [get?_eq_find?, ← Option.mem_toList, ← hfound, List.mem_filter, decide_eq_true_eq]

theorem Sound.before {r : Registry} (h : r.Sound) (x : Call) (c : Channel) :
    ((x.before r).channel c).Sound := by
  unfold Call.before
  cases hr : r.get? x.name x.directory with
  | none =>
    rw [Option.getD_none, PackageEntries.channel_empty]
    exact ChannelEntries.sound_empty.addImport x.framework
  | some p => exact h.channels p ((get?_eq_some_iff h.identities).1 hr).1 c

theorem Sound.apply {r : Registry} (h : r.Sound) (x : Call) : (x.apply r).Sound := by
  have hnodup : ((x.apply r).packages.map PackageEntries.identity).Nodup := by
    rw [identities_apply]
    split
    · exact h.identities
    · rename_i hnew
      refine List.nodup_append.2 ⟨h.identities, List.nodup_singleton _, ?_⟩
      rintro a ha b hb rfl
      exact hnew (List.mem_singleton.1 hb ▸ ha)
  refine ⟨hnodup, fun p hp c => ?_⟩
  have hget : (x.apply r).get? p.name p.directory = some p := (get?_eq_some_iff hnodup).2 ⟨hp, rfl⟩
  rw [get?_apply] at hget
  split at hget
  · cases hget
    have hbefore := h.before x c
    rcases x.change.channel_apply (x.before r) c with ⟨-, hc⟩ | ⟨-, -, path, hc⟩ | ⟨-, key, -, hc⟩
    · exact hc ▸ hbefore
    · exact hc ▸ hbefore.addImport path
    · exact hc ▸ hbefore.update key x.change.onRecord
  · exact h.channels p ((get?_eq_some_iff h.identities).1 hget).1 c

theorem Sound.run {r : Registry} (h : r.Sound) (calls : List Call) : (calls.foldl Call.apply r).Sound := by
  induction calls generalizing r with
  | nil => exact h
  | cons x calls ih => exact ih (h.apply x)

/-! ## The order of first calls -/

/-- The package that a call names. -/
def Call.target (x : Call) : String × String := (x.name, x.directory)

theorem identities_run (calls : List Call) :
    (calls.foldl Call.apply {}).packages.map PackageEntries.identity = (calls.map Call.target).eraseDups := by
  induction calls using List.reverseRecOn with
  | nil => rfl
  | append_singleton calls x ih =>
    rw [List.foldl_concat, identities_apply, ih, List.map_append, List.map_singleton,
      Table.eraseDups_concat]
    simp only [List.mem_eraseDups, Call.target]
    congr

/-- The key that a call names in one channel of a package. -/
def Call.keyIn? (name directory : String) (c : Channel) (x : Call) : Option String :=
  if x.target = (name, directory) ∧ x.change.channel? = some c then x.change.key? else none

/-- The keys of a channel, none when its package is not there. -/
def keysAt (r : Registry) (name directory : String) (c : Channel) : List String :=
  ((r.get? name directory).map fun p => (p.channel c).keys).getD []

theorem keys_before (r : Registry) (x : Call) (c : Channel) :
    ((x.before r).channel c).keys = r.keysAt x.name x.directory c := by
  unfold Call.before keysAt
  cases r.get? x.name x.directory with
  | none =>
    rw [Option.getD_none, PackageEntries.channel_empty, ChannelEntries.keys_addImport]
    rfl
  | some p => rfl

theorem keysAt_apply (r : Registry) (x : Call) (name directory : String) (c : Channel) :
    (x.apply r).keysAt name directory c =
      match x.keyIn? name directory c with
      | some key =>
        if key ∈ r.keysAt name directory c then r.keysAt name directory c
        else r.keysAt name directory c ++ [key]
      | none => r.keysAt name directory c := by
  by_cases htarget : x.target = (name, directory)
  · obtain ⟨rfl, rfl⟩ := Prod.mk.inj htarget
    have hafter : (x.apply r).keysAt x.name x.directory c = ((x.change.apply (x.before r)).channel c).keys := by
      rw [keysAt, get?_apply, if_pos rfl]
      rfl
    rw [hafter]
    rcases x.change.channel_apply (x.before r) c with
      ⟨hother, hc⟩ | ⟨hchannel, hkey, path, hc⟩ | ⟨hchannel, key, hkey, hc⟩
    · have hnone : x.keyIn? x.name x.directory c = none := if_neg fun h => hother h.2
      rw [hnone, hc, keys_before]
    · have hnone : x.keyIn? x.name x.directory c = none := (if_pos ⟨rfl, hchannel⟩).trans hkey
      rw [hnone, hc, ChannelEntries.keys_addImport, keys_before]
    · have hsome : x.keyIn? x.name x.directory c = some key := (if_pos ⟨rfl, hchannel⟩).trans hkey
      rw [hsome, hc, ChannelEntries.keys_update, keys_before]
  · have hsame : (x.apply r).keysAt name directory c = r.keysAt name directory c := by
      rw [keysAt, get?_apply, if_neg fun h => htarget h.symm, keysAt]
    have hnone : x.keyIn? name directory c = none := if_neg fun h => htarget h.1
    rw [hnone, hsame]

/-- A channel lists the keys that calls have named in it, in the order in which they were first named. -/
theorem keysAt_run (calls : List Call) (name directory : String) (c : Channel) :
    (calls.foldl Call.apply {}).keysAt name directory c =
      (calls.filterMap (Call.keyIn? name directory c)).eraseDups := by
  induction calls using List.reverseRecOn with
  | nil => rfl
  | append_singleton calls x ih =>
    rw [List.foldl_concat, keysAt_apply, ih, List.filterMap_append]
    cases hkey : x.keyIn? name directory c with
    | none => simp [hkey]
    | some key =>
      have hlast : [x].filterMap (Call.keyIn? name directory c) = [key] := by simp [hkey]
      rw [hlast, Table.eraseDups_concat]
      simp only [List.mem_eraseDups]

/-- A package has the keys that calls have named in it. -/
theorem keys_run (calls : List Call) {p : PackageEntries} (hp : p ∈ (calls.foldl Call.apply {}).packages)
    (c : Channel) : (p.channel c).keys = (calls.filterMap (Call.keyIn? p.name p.directory c)).eraseDups := by
  have hget := (get?_eq_some_iff (sound_empty.run calls).identities).2 ⟨hp, rfl⟩
  rw [← keysAt_run, keysAt, hget]
  rfl

/-! ## Positions -/

/-- The position of the package with a name and a directory. -/
def position? (r : Registry) (name directory : String) : Option Nat :=
  r.packages.findIdx? fun p => p.isAt name directory

theorem get?_eq_position? (r : Registry) (name directory : String) :
    r.get? name directory = (r.position? name directory).bind fun i => r.packages[i]? :=
  List.find?_eq_bind_findIdx?_getElem?

theorem isAt_iff {p : PackageEntries} {name directory : String} :
    p.isAt name directory = true ↔ p.identity = (name, directory) := by
  simp [PackageEntries.isAt, PackageEntries.identity]

theorem position?_eq_some_iff {r : Registry} (h : (r.packages.map PackageEntries.identity).Nodup)
    {name directory : String} {i : Nat} :
    r.position? name directory = some i ↔
      (r.packages.map PackageEntries.identity)[i]? = some (name, directory) := by
  rw [position?, List.findIdx?_eq_some_iff_getElem]
  constructor
  · rintro ⟨hi, hat, -⟩
    rw [List.getElem?_map, List.getElem?_eq_getElem hi, Option.map_some, isAt_iff.1 hat]
  · intro hi
    obtain ⟨hlt, heq⟩ := List.getElem?_eq_some_iff.1 hi
    have hlen : i < r.packages.length := by simpa using hlt
    refine ⟨hlen, isAt_iff.2 (by simpa using heq), fun j hj hat => ?_⟩
    -- an earlier package with the same identity would be this one
    have hsame : (r.packages.map PackageEntries.identity)[j] = (r.packages.map PackageEntries.identity)[i] := by
      rw [heq, List.getElem_map, isAt_iff.1 hat]
    exact absurd ((h.getElem_inj_iff).1 hsame) (by omega)

theorem identities_prefix_run (r : Registry) (calls : List Call) :
    r.packages.map PackageEntries.identity <+:
      (calls.foldl Call.apply r).packages.map PackageEntries.identity := by
  induction calls generalizing r with
  | nil => exact List.prefix_rfl
  | cons x calls ih =>
    have hstep : r.packages.map PackageEntries.identity <+: (x.apply r).packages.map PackageEntries.identity := by
      rw [identities_apply]
      split
      · exact List.prefix_rfl
      · exact List.prefix_append _ _
    exact hstep.trans (ih (x.apply r))

/-- A package keeps its position whatever calls follow. -/
theorem Sound.position?_run {r : Registry} (h : r.Sound) (calls : List Call) {name directory : String}
    {i : Nat} (hi : r.position? name directory = some i) :
    (calls.foldl Call.apply r).position? name directory = some i := by
  rw [position?_eq_some_iff h.identities] at hi
  rw [position?_eq_some_iff (h.run calls).identities]
  obtain ⟨later, hlater⟩ := identities_prefix_run r calls
  rw [← hlater, List.getElem?_append_left (List.getElem?_eq_some_iff.1 hi).1]
  exact hi

/-! ## Consistency -/

/-- Packages and positions of a registry agree: each channel is consistent, each package stands once, and
the position of a package is where it stands. -/
structure Consistent (r : Registry) : Prop where
  channels : ∀ p ∈ r.packages, ∀ c, (p.channel c).Consistent
  identities_nodup : (r.packages.map PackageEntries.identity).Nodup
  position_iff : ∀ name directory i, r.position? name directory = some i ↔
    ∃ p, r.packages[i]? = some p ∧ p.name = name ∧ p.directory = directory
  get?_eq : ∀ name directory,
    r.get? name directory = (r.position? name directory).bind fun i => r.packages[i]?

theorem Sound.consistent {r : Registry} (h : r.Sound) : r.Consistent where
  channels p hp c := (h.channels p hp c).consistent
  identities_nodup := h.identities
  position_iff name directory i := by
    rw [position?_eq_some_iff h.identities, List.getElem?_map, Option.map_eq_some_iff]
    simp only [PackageEntries.identity, Prod.mk.injEq]
  get?_eq := r.get?_eq_position?

/-- A call changes nothing but the package, the channel and the key that it names. -/
structure Call.Confined (x : Call) (r : Registry) : Prop where
  packages : ∀ name directory, (name, directory) ≠ x.target →
    (x.apply r).get? name directory = r.get? name directory
  package : (x.apply r).get? x.name x.directory = some (x.change.apply (x.before r))
  channels : ∀ c, x.change.channel? ≠ some c →
    (x.change.apply (x.before r)).channel c = (x.before r).channel c
  imports : ∀ c key, x.change.key? = some key →
    ((x.change.apply (x.before r)).channel c).imports = ((x.before r).channel c).imports
  records : ∀ c, x.change.key? = none →
    ((x.change.apply (x.before r)).channel c).records = ((x.before r).channel c).records
  keys : ∀ c key, x.change.key? ≠ some key →
    ((x.change.apply (x.before r)).channel c).record? key = ((x.before r).channel c).record? key
  record : ∀ c key, x.change.channel? = some c → x.change.key? = some key →
    ((x.change.apply (x.before r)).channel c).record? key =
      some (x.change.onRecord ((((x.before r).channel c).record? key).getD {}))

theorem Call.confined (x : Call) (r : Registry) : x.Confined r where
  packages name directory hne := by
    rw [get?_apply]
    exact if_neg hne
  package := by rw [get?_apply, if_pos rfl]
  channels c hc := by
    rcases x.change.channel_apply (x.before r) c with ⟨-, h⟩ | ⟨h, -⟩ | ⟨h, -⟩
    · exact h
    · exact absurd h hc
    · exact absurd h hc
  imports c key hkey := by
    rcases x.change.channel_apply (x.before r) c with ⟨-, h⟩ | ⟨-, hnone, -⟩ | ⟨-, key, -, h⟩
    · rw [h]
    · rw [hnone] at hkey
      cases hkey
    · rw [h]
      rfl
  records c hnone := by
    rcases x.change.channel_apply (x.before r) c with ⟨-, h⟩ | ⟨-, -, path, h⟩ | ⟨-, key, hkey, -⟩
    · rw [h]
    · rw [h, ChannelEntries.records_addImport]
    · rw [hnone] at hkey
      cases hkey
  keys c key hne := by
    rcases x.change.channel_apply (x.before r) c with ⟨-, h⟩ | ⟨-, -, path, h⟩ | ⟨-, k, hkey, h⟩
    · rw [h]
    · rw [h, ChannelEntries.record?, ChannelEntries.records_addImport, ChannelEntries.record?]
    · rw [h, ChannelEntries.record?_update, if_neg]
      rintro rfl
      exact hne hkey
  record c key hc hkey := by
    rcases x.change.channel_apply (x.before r) c with ⟨h, -⟩ | ⟨-, hnone, -⟩ | ⟨-, k, hk, h⟩
    · exact absurd hc h
    · rw [hnone] at hkey
      cases hkey
    · rw [hk] at hkey
      cases hkey
      rw [h, ChannelEntries.record?_update, if_pos rfl]

end Registry
end Registrar
