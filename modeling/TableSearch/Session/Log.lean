/-!
# Log entries

What the library reports about its work, as data.  Values of callers never
appear in an entry, only the texts of statements, names and counts.
-/

namespace TableSearch

inductive LogLevel where
  | debug
  | info
  | warning
deriving DecidableEq, Repr

def LogLevel.name : LogLevel → String
  | debug => "DEBUG"
  | info => "INFO"
  | warning => "WARNING"

structure LogEntry where
  level : LogLevel
  message : String
deriving DecidableEq, Repr

namespace LogEntry

def executing (statement : String) : LogEntry := ⟨.debug, "Executing SQL: " ++ statement⟩

def ignoredTexts : LogEntry :=
  ⟨.warning, "Ignoring text ranking signal: pgvector only supports vector search"⟩

def upserted (count : Nat) (indexId : String) (inserted : Nat) : LogEntry :=
  ⟨.debug, s!"Upserted {count} documents into {indexId} ({inserted} inserted)"⟩

def deleted (count : Int) (indexId : String) : LogEntry :=
  ⟨.debug, s!"Deleted {count} documents from {indexId}"⟩

def loaded (count : Nat) : LogEntry := ⟨.debug, s!"Loaded {count} index bindings"⟩

def created (indexId schema : String) : LogEntry :=
  ⟨.info, s!"Created index {indexId} in schema {schema}"⟩

def bound (indexId schema table : String) : LogEntry :=
  ⟨.info, s!"Bound index {indexId} to {schema}.{table}"⟩

def dropped (indexId : String) : LogEntry := ⟨.info, s!"Deleted index {indexId}"⟩

def connecting (poolSize : Int) : LogEntry :=
  ⟨.debug, s!"Creating async engine (pool_size={poolSize})"⟩

end LogEntry

end TableSearch
