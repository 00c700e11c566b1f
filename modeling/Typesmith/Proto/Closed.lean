import Typesmith.Proto.Compile
import Typesmith.Proto.DescriptorSet

/-! # Closed pools

Names are resolved against the declarations of the files that a pool is made from, and each of these
gives a descriptor. So whatever a field refers to stands in the pool of the field.
-/

namespace Typesmith.Proto

section

variable {symbols : List Symbol} {scope name : String} {found : Symbol} {kind : Kind}

/-- What a kind refers to is declared. -/
def Declared (symbols : List Symbol) : Kind → Prop
  | .scalar _ => True
  | .message name => ⟨name, .message⟩ ∈ symbols
  | .enum name => ⟨name, .enum⟩ ∈ symbols

theorem Declared.mono {more : List Symbol} (sub : symbols ⊆ more) (h : Declared symbols kind) :
    Declared more kind := by
  cases kind with
  | scalar => trivial
  | message name => exact sub h
  | enum name => exact sub h

theorem mem_of_symbol? {accepts : SymbolKind → Bool}
    (h : (symbol? symbols name).filter (accepts ·.kind) = some found) :
    found ∈ symbols ∧ accepts found.kind = true := by
  obtain ⟨h, accepted⟩ := Option.filter_eq_some_iff.mp h
  exact ⟨List.mem_of_find?_eq_some h, accepted⟩

theorem mem_of_resolveIn? {accepts : SymbolKind → Bool} {first : String} {scopes : List String}
    (h : resolveIn? symbols accepts first name scopes = some found) :
    found ∈ symbols ∧ accepts found.kind = true := by
  induction scopes with
  | nil => simp [resolveIn?] at h
  | cons scope outer ih =>
    simp only [resolveIn?] at h
    split at h
    · split at h
      · next here =>
        cases h
        exact mem_of_symbol? here
      · exact ih h
    · split at h
      · exact mem_of_symbol? h
      · exact ih h

theorem mem_of_resolve? {accepts : SymbolKind → Bool}
    (h : resolve? symbols accepts scope name = some found) :
    found ∈ symbols ∧ accepts found.kind = true := by
  simp only [resolve?] at h
  split at h
  · exact mem_of_symbol? h
  · exact mem_of_resolveIn? h

theorem declared_of_kind? {type : FieldType} (h : type.kind? symbols scope = some kind) :
    Declared symbols kind := by
  cases type with
  | scalar type => cases h; trivial
  | message name | enum name | named name =>
    obtain ⟨⟨fullName, found⟩, hs, h⟩ := Option.bind_eq_some_iff.mp h
    obtain ⟨mem, accepted⟩ := mem_of_resolve? hs
    cases found <;> simp_all [SymbolKind.isType] <;> subst h <;> exact mem

theorem declared_of_descriptor? {decl : FieldDecl} {field : FieldDescriptor}
    (h : decl.descriptor? symbols scope = some field) : Declared symbols field.kind := by
  obtain ⟨kind, hk, h⟩ := Option.bind_eq_some_iff.mp h
  cases h
  exact declared_of_kind? hk

end

theorem mapM_eq_some_iff {α β : Type} {f : α → Option β} {items : List α} {results : List β} :
    items.mapM f = some results ↔ items.map f = results.map some := by
  induction items generalizing results with
  | nil => cases results <;> simp
  | cons item rest ih =>
    cases results with
    | nil => simp [Option.bind_eq_some_iff]
    | cons result results => simp [Option.bind_eq_some_iff, ih]

theorem exists_mem_of_mapM {α β : Type} {f : α → Option β} {items : List α} {results : List β}
    (h : items.mapM f = some results) {item : α} (mem : item ∈ items) :
    ∃ result ∈ results, f item = some result := by
  have mem := List.mem_map_of_mem (f := f) mem
  rw [mapM_eq_some_iff.mp h] at mem
  obtain ⟨result, mem, eq⟩ := List.mem_map.mp mem
  exact ⟨result, mem, eq.symm⟩

theorem exists_of_mem_mapM {α β : Type} {f : α → Option β} {items : List α} {results : List β}
    (h : items.mapM f = some results) {result : β} (mem : result ∈ results) :
    ∃ item ∈ items, f item = some result := by
  have mem := List.mem_map_of_mem (f := some) mem
  rw [← mapM_eq_some_iff.mp h] at mem
  exact List.mem_map.mp mem

namespace Pool

def Holds (pool : Pool) : Kind → Prop
  | .scalar _ => True
  | .message name => ∃ message ∈ pool.messages, message.fullName = name
  | .enum name => ∃ enum ∈ pool.enums, enum.fullName = name

instance (pool : Pool) : DecidablePred pool.Holds
  | .scalar _ => inferInstanceAs (Decidable True)
  | .message name =>
    inferInstanceAs (Decidable (∃ message ∈ pool.messages, message.fullName = name))
  | .enum name => inferInstanceAs (Decidable (∃ enum ∈ pool.enums, enum.fullName = name))

/-- Whatever a field refers to, as its kind or in the entries of its map, stands in the pool. -/
def Closed (pool : Pool) : Prop :=
  ∀ message ∈ pool.messages, ∀ field ∈ message.fields,
    pool.Holds field.kind ∧ ∀ entry ∈ field.mapEntry, pool.Holds entry.1 ∧ pool.Holds entry.2

instance : DecidablePred Closed := fun pool =>
  inferInstanceAs (Decidable (∀ message ∈ pool.messages, ∀ field ∈ message.fields,
    pool.Holds field.kind ∧ ∀ entry ∈ field.mapEntry, pool.Holds entry.1 ∧ pool.Holds entry.2))

theorem closed_empty : Closed {} := by decide

section

variable {pool other : Pool} {kind : Kind}

@[simp] theorem messages_append : (pool ++ other).messages = pool.messages ++ other.messages := rfl

@[simp] theorem enums_append : (pool ++ other).enums = pool.enums ++ other.enums := rfl

theorem holds_append : (pool ++ other).Holds kind ↔ pool.Holds kind ∨ other.Holds kind := by
  cases kind with
  | scalar => simp [Holds]
  | message name => simp [Holds, or_and_right, exists_or]
  | enum name => simp [Holds, or_and_right, exists_or]

/-- Every declared message and enum has a descriptor in the pool, and the fields of the pool refer
to what is visible. -/
structure Answers (pool : Pool) (visible declared : List Symbol) : Prop where
  holds : ∀ {kind}, Declared declared kind → pool.Holds kind
  refers : ∀ message ∈ pool.messages, ∀ field ∈ message.fields, Declared visible field.kind

variable {visible declared more : List Symbol}

theorem Answers.append (h : pool.Answers visible declared) (h' : other.Answers visible more) :
    (pool ++ other).Answers visible (declared ++ more) where
  holds {kind} mem := by
    rw [holds_append]
    cases kind with
    | scalar => exact .inl trivial
    | message name => exact (List.mem_append.mp mem).imp h.holds h'.holds
    | enum name => exact (List.mem_append.mp mem).imp h.holds h'.holds
  refers message mem := by
    rcases List.mem_append.mp mem with mem | mem
    · exact h.refers message mem
    · exact h'.refers message mem

theorem answers_empty : Answers {} visible [] where
  holds {kind} mem := by
    cases kind with
    | scalar => trivial
    | message name | enum name => simp [Declared] at mem
  refers := by simp

theorem Answers.of_types (h : pool.Answers visible declared)
    (sub : ∀ symbol ∈ more, symbol.kind.isType = true → symbol ∈ declared) :
    pool.Answers visible more where
  holds {kind} mem := by
    cases kind with
    | scalar => trivial
    | message name => exact h.holds (show Declared declared (.message name) from sub _ mem rfl)
    | enum name => exact h.holds (show Declared declared (.enum name) from sub _ mem rfl)
  refers := h.refers

end

end Pool

variable {dialect : Dialect} {visible : List Symbol} {scope : String}

theorem enumAnswers {decls : List EnumDecl} {enums : List EnumDescriptor}
    {extensions : List ExtensionDescriptor}
    (h : decls.mapM (·.descriptor? dialect scope) = some enums) :
    Pool.Answers { enums, extensions } visible (decls.map (⟨qualify scope ·.name, .enum⟩)) where
  holds {kind} mem := by
    cases kind with
    | scalar => trivial
    | message name => simp [Declared] at mem
    | enum name =>
      obtain ⟨decl, hd, rfl⟩ : ∃ decl ∈ decls, qualify scope decl.name = name := by
        simpa [Declared] using mem
      obtain ⟨descriptor, he, eq⟩ := exists_mem_of_mapM h hd
      refine ⟨descriptor, he, ?_⟩
      simp only [EnumDecl.descriptor?] at eq
      split at eq
      · cases eq; rfl
      · simp at eq
  refers := by simp

theorem messageAnswers {decls : List FieldDecl} {fields : List FieldDescriptor} {isMapEntry : Bool}
    (h : decls.mapM (·.descriptor? visible scope) = some fields) :
    Pool.Answers { messages := [⟨scope, fields, isMapEntry⟩] } visible [⟨scope, .message⟩] where
  holds {kind} mem := by
    cases kind with
    | scalar => trivial
    | message name => simpa [Declared, Pool.Holds, eq_comm] using mem
    | enum name => simp [Declared] at mem
  refers message mem field hf := by
    obtain rfl := List.mem_singleton.mp mem
    obtain ⟨decl, -, hd⟩ := exists_of_mem_mapM h hf
    exact declared_of_descriptor? hd

theorem type_mem_enumSymbols {decls : List EnumDecl} {symbol : Symbol}
    (mem : symbol ∈ decls.flatMap (EnumDecl.symbols scope)) (isType : symbol.kind.isType = true) :
    symbol ∈ decls.map (⟨qualify scope ·.name, .enum⟩) := by
  obtain ⟨decl, hd, mem⟩ := List.mem_flatMap.mp mem
  rcases List.mem_cons.mp mem with rfl | mem
  · exact List.mem_map_of_mem hd
  · obtain ⟨value, -, rfl⟩ := List.mem_map.mp mem
    simp [SymbolKind.isType] at isType

mutual

theorem MessageDecl.answers {scope : String} : ∀ {decl : MessageDecl} {pool : Pool},
    decl.pool? dialect visible scope = some pool → pool.Answers visible (decl.symbols scope)
  | { name, fields, nested, enums, oneofs, extensions, .. }, pool, h => by
    simp only [MessageDecl.pool?] at h
    split at h
    · simp at h
    · simp only [Option.bind_eq_bind, Option.bind_eq_some_iff] at h
      obtain ⟨found, hf, values, hv, others, -, below, hb, h⟩ := h
      cases h
      refine (((messageAnswers hf).append (nestedAnswers hb)).append (enumAnswers hv)).of_types ?_
      intro symbol mem isType
      simp only [MessageDecl.symbols, List.mem_append, List.mem_cons, List.mem_map] at mem
      rcases mem with ((((rfl | ⟨_, _, rfl⟩) | ⟨_, _, rfl⟩) | mem) | mem) | ⟨_, _, rfl⟩
      · simp
      · simp [SymbolKind.isType] at isType
      · simp [SymbolKind.isType] at isType
      · simp [mem]
      · simp only [List.mem_append, type_mem_enumSymbols mem isType, or_true]
      · simp [SymbolKind.isType] at isType

theorem nestedAnswers {scope : String} : ∀ {decls : List MessageDecl} {pool : Pool},
    nestedPool? dialect visible scope decls = some pool →
      pool.Answers visible (nestedSymbols scope decls)
  | [], pool, h => by
    cases h
    exact Pool.answers_empty
  | decl :: rest, pool, h => by
    simp only [nestedPool?, Option.bind_eq_bind, Option.bind_eq_some_iff] at h
    obtain ⟨first, hf, others, ho, h⟩ := h
    cases h
    exact (MessageDecl.answers hf).append (nestedAnswers ho)

end

theorem FileDecl.answers {files : List FileDecl} {file : FileDecl} {pool : Pool}
    (h : file.pool? files = some pool) :
    pool.Answers (visibleSymbols files file) file.symbols := by
  simp only [FileDecl.pool?] at h
  split at h
  · simp only [Option.bind_eq_bind, Option.bind_eq_some_iff] at h
    obtain ⟨nested, hn, values, hv, extensions, -, h⟩ := h
    cases h
    refine ((nestedAnswers hn).append (enumAnswers hv)).of_types ?_
    intro symbol mem isType
    simp only [FileDecl.symbols, List.mem_append, List.mem_map] at mem
    rcases mem with (((⟨_, _, rfl⟩ | mem) | mem) | mem) | ⟨_, _, rfl⟩
    · simp [SymbolKind.isType] at isType
    · simp [mem]
    · simp only [List.mem_append, type_mem_enumSymbols mem isType, or_true]
    · obtain ⟨decl, -, mem⟩ := List.mem_flatMap.mp mem
      simp only [ServiceDecl.symbols, List.mem_cons, List.mem_map] at mem
      rcases mem with rfl | ⟨_, _, rfl⟩ <;> simp [SymbolKind.isType] at isType
    · simp [SymbolKind.isType] at isType
  · simp at h

theorem mem_of_imported {files : List FileDecl} {file : FileDecl} {steps : Nat}
    {names : List String} (h : file ∈ imported files steps names) : file ∈ files := by
  induction steps generalizing names with
  | zero => simp [imported] at h
  | succ steps ih =>
    simp only [imported, List.mem_append, List.mem_flatMap, List.mem_filterMap] at h
    rcases h with ⟨name, -, found⟩ | ⟨_, -, h⟩
    · exact List.mem_of_find?_eq_some found
    · exact ih h

theorem visibleSymbols_subset {files : List FileDecl} {file : FileDecl} (mem : file ∈ files) :
    visibleSymbols files file ⊆ files.flatMap FileDecl.symbols := by
  intro symbol hs
  obtain ⟨source, source_mem, symbol_mem⟩ := List.mem_flatMap.mp hs
  rcases List.mem_cons.mp source_mem with rfl | source_mem
  · exact List.mem_flatMap.mpr ⟨_, mem, symbol_mem⟩
  · exact List.mem_flatMap.mpr ⟨_, mem_of_imported source_mem, symbol_mem⟩

namespace Pool

variable {pool : Pool} {files : List FileDecl}

theorem answers_foldl {rest : List FileDecl} {pools : List Pool} {declared : List Symbol}
    (sub : rest ⊆ files) (h : rest.mapM (·.pool? files) = some pools)
    (start : pool.Answers (files.flatMap FileDecl.symbols) declared) :
    (pools.foldl append pool).Answers (files.flatMap FileDecl.symbols)
      (declared ++ rest.flatMap FileDecl.symbols) := by
  induction rest generalizing pool pools declared with
  | nil => cases h; simpa using start
  | cons file rest ih =>
    simp only [List.mapM_cons, Option.bind_eq_bind, Option.bind_eq_some_iff] at h
    obtain ⟨first, hf, others, ho, h⟩ := h
    cases h
    obtain ⟨mem, sub⟩ := List.cons_subset.mp sub
    have first : first.Answers (files.flatMap FileDecl.symbols) file.symbols :=
      ⟨(FileDecl.answers hf).holds, fun message hm field hf' =>
        ((FileDecl.answers hf).refers message hm field hf').mono (visibleSymbols_subset mem)⟩
    rw [List.foldl_cons, List.flatMap_cons, ← List.append_assoc]
    exact ih sub ho (start.append first)

theorem holds_withMaps {kind : Kind} : pool.withMaps.Holds kind ↔ pool.Holds kind := by
  cases kind with
  | scalar => rfl
  | enum name => rfl
  | message name =>
    constructor
    · rintro ⟨_, mem, rfl⟩
      obtain ⟨message, plain, rfl⟩ := List.mem_map.mp mem
      exact ⟨message, plain, rfl⟩
    · rintro ⟨message, mem, rfl⟩
      exact ⟨_, List.mem_map_of_mem mem, rfl⟩

theorem closed_withMaps
    (h : ∀ message ∈ pool.messages, ∀ field ∈ message.fields, pool.Holds field.kind) :
    pool.withMaps.Closed := by
  simp only [Closed, holds_withMaps]
  intro message mem field hf
  obtain ⟨plain, plain_mem, rfl⟩ := List.mem_map.mp mem
  obtain ⟨bare, bare_mem, rfl⟩ := List.mem_map.mp hf
  refine ⟨h plain plain_mem bare bare_mem, fun entry he => ?_⟩
  unfold mapEntry? at he
  split at he
  · simp only [Option.mem_def, Option.bind_eq_bind, Option.bind_eq_some_iff] at he
    obtain ⟨found, hm, key, hk, value, hv, he⟩ := he
    cases he
    have hm := List.mem_of_find?_eq_some (Option.filter_eq_some_iff.mp hm).1
    exact ⟨h found hm key (List.mem_of_find?_eq_some hk),
      h found hm value (List.mem_of_find?_eq_some hv)⟩
  · simp at he

theorem closed_of_ofFiles? (h : ofFiles? files = some pool) : pool.Closed := by
  simp only [ofFiles?] at h
  split at h
  · simp only [Option.bind_eq_bind, Option.bind_eq_some_iff] at h
    obtain ⟨pools, hp, h⟩ := h
    split at h
    · cases h
      have answers := answers_foldl (List.Subset.refl files) hp answers_empty
      exact closed_withMaps fun message mem field hf =>
        answers.holds (answers.refers message mem field hf)
    · simp at h
  · simp at h

theorem closed_of_compile? {tree : FileTree} {path : String} (h : compile? tree path = some pool) :
    pool.Closed := by
  simp only [compile?, Option.bind_eq_bind, Option.bind_eq_some_iff] at h
  obtain ⟨files, -, found, hf, h⟩ := h
  split at h
  · cases h
    exact closed_of_ofFiles? hf
  · simp at h

theorem closed_of_decode? {bytes : List UInt8} (h : decode? bytes = some pool) : pool.Closed := by
  obtain ⟨files, -, h⟩ := Option.bind_eq_some_iff.mp h
  exact closed_of_ofFiles? h

end Pool

end Typesmith.Proto
