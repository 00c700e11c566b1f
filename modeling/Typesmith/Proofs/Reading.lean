import Typesmith.Service

/-! # Reading a service

A service of some name is what its two files say: its API document, and its descriptors, which are
compiled from sources or decoded.
-/

namespace Typesmith

/-- The pool that the file at a path holds, a source or an encoded set by its extension. -/
inductive Proto.Pool.ReadFrom (tree : FileTree) (path : String) (pool : Pool) : Prop where
  | source : Path.extension? path = some "proto" → tree.isFile path = true →
      compile? tree path = some pool → ReadFrom tree path pool
  | encoded {bytes : List UInt8} : Path.extension? path ≠ some "proto" →
      tree.readBytes path = .ok bytes → decode? bytes = some pool → ReadFrom tree path pool

/-- A service of some name is what the two files of that name say, under the configuration. -/
structure Service.ReadFrom (config : Config) (tree : FileTree) (name : String)
    (service : Service) : Prop where
  name_eq : service.name = name
  document : ∃ text, tree.readText (config.openApiPathFor name) = .ok text ∧
    OpenApi.Document.parse? text = some service.document
  package : service.descriptors.package = name
  pool : service.descriptors.pool.ReadFrom tree (config.protoPathFor name)
  dynamicTypes : service.dynamicTypes = dynamicNames config

theorem Proto.Descriptors.read_eq_ok_iff {tree : FileTree} {package path : String}
    {descriptors : Descriptors} :
    read tree package path = .ok descriptors ↔
      descriptors.package = package ∧ descriptors.pool.ReadFrom tree path := by
  obtain ⟨named, pool, closed⟩ := descriptors
  unfold read
  constructor
  · intro h
    split at h
    · next source =>
      split at h
      · next file =>
        split at h
        · next compiled =>
          cases h
          exact ⟨rfl, .source source file compiled⟩
        · cases h
      · cases h
    · next other =>
      split at h
      · cases h
      · next bytes found =>
        split at h
        · next decoded =>
          cases h
          exact ⟨rfl, .encoded other found decoded⟩
        · cases h
  · rintro ⟨rfl, reads⟩
    cases reads with
    | source extension file compiled =>
      rw [if_pos extension, if_pos file]
      split
      · next again =>
        cases compiled.symm.trans again
        rfl
      · next failed => simp [failed] at compiled
    | encoded extension found decoded =>
      rw [if_neg extension, found]
      dsimp only
      split
      · next again =>
        cases decoded.symm.trans again
        rfl
      · next failed => simp [failed] at decoded

namespace Service

variable {config : Config} {tree : FileTree} {name : String} {service : Service}

theorem readDocument_eq_ok_iff {path : String} {document : OpenApi.Document} :
    readDocument tree path = .ok document ↔
      ∃ text, tree.readText path = .ok text ∧ OpenApi.Document.parse? text = some document := by
  unfold readDocument
  cases tree.readText path with
  | error cause => simp
  | ok text => cases h : OpenApi.Document.parse? text <;> simp [h]

theorem read_eq : read config tree name =
    match readDocument tree (config.openApiPathFor name) with
    | .error cause => .error (.openApiParse name cause)
    | .ok document =>
      match Proto.Descriptors.read tree name (config.protoPathFor name) with
      | .error cause => .error (.protoParse name cause)
      | .ok descriptors => .ok ⟨name, document, descriptors, dynamicNames config⟩ := by
  unfold read
  cases readDocument tree (config.openApiPathFor name) with
  | error cause => rfl
  | ok document =>
    cases Proto.Descriptors.read tree name (config.protoPathFor name) <;> rfl

theorem read_eq_ok_iff : read config tree name = .ok service ↔
    service.ReadFrom config tree name := by
  rw [read_eq]
  constructor
  · intro h
    split at h
    · cases h
    · next document read =>
      split at h
      · cases h
      · next descriptors read' =>
        cases h
        obtain ⟨package, pool⟩ := Proto.Descriptors.read_eq_ok_iff.mp read'
        exact ⟨rfl, readDocument_eq_ok_iff.mp read, package, pool, rfl⟩
  · intro h
    obtain ⟨own, document, descriptors, dynamic⟩ := service
    obtain ⟨rfl, parsed, package, pool, rfl⟩ := h
    simp only [readDocument_eq_ok_iff.mpr parsed,
      Proto.Descriptors.read_eq_ok_iff.mpr ⟨package, pool⟩]

theorem read_eq_error {error : Error} (h : read config tree name = .error error) :
    (∃ cause, error = .openApiParse name cause) ∨ ∃ cause, error = .protoParse name cause := by
  rw [read_eq] at h
  split at h
  · cases h
    exact .inl ⟨_, rfl⟩
  · split at h
    · cases h
      exact .inr ⟨_, rfl⟩
    · cases h

end Service

end Typesmith
