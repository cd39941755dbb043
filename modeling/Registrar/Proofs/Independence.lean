import Registrar.Proofs.Success
/-!
# Packages do not interfere

Interpreting one package is interpreting its operations and no others (`interpret_forPackage`), so
nothing in another package can change or stop it. Without a filter, what is collected for a package is
what its operations give on their own, whatever stands between them (`packages_independent`).
-/
namespace Registrar.Interpreter

/-! ## One package -/

/-- The same interpreter for the operations of one package. -/
def forPackage (i : Interpreter) (p : String) : Interpreter := { i with package := some p }

/-- The same interpreter for all packages. -/
def forAll (i : Interpreter) : Interpreter := { i with package := none }

theorem arguments_withPackage (i : Interpreter) (q : Option String) (op : Operation) (text : String)
    (c : Channel) (args : List (String × String)) :
    ({ i with package := q } : Interpreter).arguments op text c args = i.arguments op text c args := by
  induction args with
  | nil => rfl
  | cons a as ih =>
    rw [arguments, arguments, ih]
    rfl

theorem contributions_withPackage (i : Interpreter) (q : Option String) (op : Operation)
    (home : Channel) (ds : List Directive) :
    ({ i with package := q } : Interpreter).contributions op home ds = i.contributions op home ds := by
  have hone : ∀ d, ({ i with package := q } : Interpreter).contribution op home d =
      i.contribution op home d := by
    intro d
    simp only [contribution, api, arguments_withPackage]
    rfl
  induction ds with
  | nil => rfl
  | cons d ds ih => rw [contributions, contributions, hone, ih]

/-- What an operation contributes does not depend on which package is asked for. -/
theorem operation_withPackage (i : Interpreter) (q : Option String) (op : Operation) :
    ({ i with package := q } : Interpreter).operation op = i.operation op := by
  simp only [operation, contributions_withPackage]

theorem operation_forPackage (i : Interpreter) (p : String) (op : Operation) :
    (i.forPackage p).operation op = i.forAll.operation op :=
  (operation_withPackage i (some p) op).trans (operation_withPackage i none op).symm

theorem operations_forPackage (i : Interpreter) (p : String) (ops : List Operation)
    (s : Registry × Nat) :
    (i.forPackage p).operations ops s =
      i.forAll.operations (ops.filter fun op => op.packageName = p) s := by
  induction ops generalizing s with
  | nil => rfl
  | cons op ops ih =>
    obtain ⟨registry, n⟩ := s
    rw [operations]
    by_cases hp : op.packageName = p
    · have hselected : (i.forPackage p).selects op = true := by simp [selects, forPackage, hp]
      have hall : i.forAll.selects op = true := rfl
      rw [List.filter_cons_of_pos (by simpa using hp), operations, if_pos hselected, if_pos hall,
        operation_forPackage]
      congr 1
      funext found
      cases found with
      | none => exact ih (registry, n)
      | some xs => exact ih _
    · have hskipped : (i.forPackage p).selects op = false := by
        simp [selects, forPackage, Ne.symm hp]
      rw [List.filter_cons_of_neg (by simpa using hp), hskipped]
      exact ih (registry, n)

/-- Interpreting one package is interpreting its operations, with the same events and the same
failure. -/
theorem interpret_forPackage (i : Interpreter) (p : String) (ops : List Operation) :
    (i.forPackage p).interpret ops =
      i.forAll.interpret (ops.filter fun op => op.packageName = p) := by
  rw [interpret, interpret, operations_forPackage]

/-! ## All packages -/

theorem interpret_filter {i : Interpreter} {ops : List Operation} {r : Registry}
    (h : (i.interpret ops).2 = .ok r) (q : String × String → Bool) :
    (i.interpret (ops.filter fun op => q (packageOf op))).2 =
      .ok ⟨r.packages.filter fun e => q e.identity⟩ := by
  obtain ⟨hreadable, hr⟩ := interpret_eq_ok_iff.1 h
  refine interpret_eq_ok_iff.2 ⟨fun op hop => hreadable op (List.mem_of_mem_filter hop), ?_⟩
  rw [reading_filter, hr]

/-- The operations of every package stand in the same order. -/
def SameByPackage (ops ops' : List Operation) : Prop :=
  ∀ id, (ops.filter fun op => packageOf op = id) = ops'.filter fun op => packageOf op = id

theorem SameByPackage.mem {ops ops' : List Operation} (h : SameByPackage ops ops') {op : Operation}
    (hop : op ∈ ops') : op ∈ ops := by
  have hown : op ∈ ops'.filter fun o => packageOf o = packageOf op := List.mem_filter.2 ⟨hop, by simp⟩
  rw [← h (packageOf op)] at hown
  exact List.mem_of_mem_filter hown

/-- Neighbours of different packages can change places. -/
theorem SameByPackage.swap {a b : Operation} (h : packageOf a ≠ packageOf b) (ops : List Operation) :
    SameByPackage (a :: b :: ops) (b :: a :: ops) := by
  intro id
  by_cases ha : packageOf a = id
  · have hb : packageOf b ≠ id := fun hb => h (ha.trans hb.symm)
    simp [ha, hb]
  · simp [ha, List.filter_cons]

/-- Operations in another order, but in the same order in every package, give the same packages. -/
theorem SameByPackage.interpret {i : Interpreter} {ops ops' : List Operation} {r : Registry}
    (hsame : SameByPackage ops ops') (h : (i.interpret ops).2 = .ok r) :
    ∃ r', (i.interpret ops').2 = .ok r' ∧ r'.packages.Perm r.packages ∧
      ∀ name directory, r'.get? name directory = r.get? name directory := by
  obtain ⟨hreadable, hr⟩ := interpret_eq_ok_iff.1 h
  refine ⟨i.reading ops', interpret_eq_ok_iff.2 ⟨fun op hop => hreadable op (hsame.mem hop), rfl⟩, ?_⟩
  -- what is listed for a package comes from its operations, and these stand in the same order
  have hpart : ∀ id, ((i.reading ops').packages.filter fun e => e.identity = id) =
      r.packages.filter fun e => e.identity = id := by
    intro id
    rw [hr, ← reading_filter i ops' fun k => k = id, ← reading_filter i ops fun k => k = id, hsame id]
  constructor
  · have hn := (nodup_reading i ops).of_map
    have hn' := (nodup_reading i ops').of_map
    rw [hr] at hpart ⊢
    refine (List.perm_ext_iff_of_nodup hn' hn).2 fun e => ?_
    have he := congrArg (e ∈ ·) (hpart e.identity)
    simpa using he
  · intro name directory
    rw [Registry.get?_eq_find?, Registry.get?_eq_find?, ← List.head?_filter, ← List.head?_filter, hpart]

/-- Packages do not interfere. Interpreting one package is interpreting its operations, so that two
models which agree on them give the same, whatever else they hold. Where all packages can be
interpreted together, one package alone gives its part of that; each name and directory has what its
operations give on their own; and any order of operations that keeps their order inside each package
gives the same packages. -/
theorem packages_independent (i : Interpreter) (ops : List Operation) :
    (∀ p, (i.forPackage p).interpret ops =
      i.forAll.interpret (ops.filter fun op => op.packageName = p)) ∧
    (∀ p ops', (ops.filter fun op => op.packageName = p) =
        (ops'.filter fun op => op.packageName = p) →
      (i.forPackage p).interpret ops = (i.forPackage p).interpret ops') ∧
    ∀ r, (i.forAll.interpret ops).2 = .ok r →
      (∀ p, ((i.forPackage p).interpret ops).2 = .ok ⟨r.packages.filter fun e => e.name = p⟩) ∧
      (∀ name directory, ∃ own,
        (i.forAll.interpret (ops.filter fun op => packageOf op = (name, directory))).2 = .ok own ∧
        own.packages = (r.get? name directory).toList) ∧
      ∀ ops', SameByPackage ops ops' →
        ∃ r', (i.forAll.interpret ops').2 = .ok r' ∧ r'.packages.Perm r.packages ∧
          ∀ name directory, r'.get? name directory = r.get? name directory := by
  refine ⟨fun p => interpret_forPackage i p ops, fun p ops' h => ?_, fun r h => ⟨fun p => ?_, ?_, ?_⟩⟩
  · rw [interpret_forPackage, interpret_forPackage, h]
  · rw [interpret_forPackage]
    exact interpret_filter h fun id => id.1 = p
  · intro name directory
    refine ⟨_, interpret_filter h fun id => id = (name, directory), ?_⟩
    exact filter_packages h (name, directory)
  · intro ops' hsame
    exact hsame.interpret h

/-- An operation of a package in the directory of its name, with one line of documentation. -/
def documented (package name doc : String) : Operation :=
  { packageName := package, filename := package ++ "/" ++ name ++ ".go", name, line := 3, docs := [doc] }

def save : Operation := documented "shop" "Save" "// @Handler(type=\"api\", net=\"http\", path=\"/save\")"

def load : Operation := documented "shop" "Load" "// @Handler(type=\"api\", net=\"http\", path=\"/load\")"

def send : Operation := documented "mail" "Send" "// @Handler(type=\"api\", net=\"tcp\", msgId=\"7\")"

/-- A directive that cannot be read. -/
def broken : Operation := documented "mail" "Send" "// @Handler(type=\"api\", net="

/-- Two packages in turns: the operations of one are not disturbed by a broken one of the other, and
may change places with it. -/
theorem packages_in_turns :
    let i : Interpreter := {}
    (i.forAll.interpret [broken, save, load]).2.toOption = none ∧
    (i.forPackage "shop").interpret [save, send, load] =
      (i.forPackage "shop").interpret [broken, save, load] ∧
    ∃ r, (i.forAll.interpret [save, send, load]).2 = .ok r ∧
      r.packages.map (fun e => (e.name, e.http.keys, e.tcp.keys)) =
        [("shop", ["shop/Save.goSave", "shop/Load.goLoad"], []), ("mail", [], ["mail/Send.goSend"])] ∧
      ((i.forPackage "shop").interpret [save, send, load]).2 =
        .ok ⟨r.packages.filter fun e => e.name = "shop"⟩ ∧
      ∃ r', (i.forAll.interpret [send, save, load]).2 = .ok r' ∧ r'.packages.Perm r.packages := by
  intro i
  have hbroken : (i.forAll.interpret [broken, save, load]).2.toOption = none := by decide +kernel
  have hok : (i.forAll.interpret [save, send, load]).2.toOption.map
      (fun r => r.packages.map fun e => (e.name, e.http.keys, e.tcp.keys)) =
      some [("shop", ["shop/Save.goSave", "shop/Load.goLoad"], []),
        ("mail", [], ["mail/Send.goSend"])] := by decide +kernel
  obtain ⟨-, hagree, hall⟩ := packages_independent i [save, send, load]
  refine ⟨hbroken, hagree "shop" [broken, save, load] rfl, ?_⟩
  cases h : (i.forAll.interpret [save, send, load]).2 with
  | error e =>
    rw [h] at hok
    cases hok
  | ok r =>
    rw [h] at hok
    obtain ⟨hpart, -, hreorder⟩ := hall r h
    obtain ⟨r', hr', hperm, -⟩ :=
      hreorder [send, save, load] (SameByPackage.swap (a := save) (b := send) (by decide) [load])
    exact ⟨r, rfl, Option.some.inj hok, hpart "shop", r', hr', hperm⟩

end Registrar.Interpreter
