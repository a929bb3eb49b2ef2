import TableSearch.Index.Registry

/-!
# Calls

Everything that a program can ask of a registry and of the handles it gives out, as
data, so that facts about sequences of calls can be stated.
-/

namespace TableSearch

/-- A call of a registry, or of its handle for an index. -/
inductive Call where
  | startup
  | shutdown
  | createIndex (indexId schemaName : String) (schema : Value)
  | bindIndex (indexId : String) (binding : Binding)
  | bindValue (indexId : String) (binding : Value)
  | describeIndex (indexId : String)
  | deleteIndex (indexId : String)
  | listIndexes (params : Value)
  /-- Goes on from a page of a listing. -/
  | nextPage (page : Page IndexSummary)
  | query (indexId : String) (input : QueryInput)
  | upsert (indexId : String) (documents : Value)
  | patch (indexId : String) (patches : Value)
  | delete (indexId : String) (keys : Value)

namespace Call

variable {σ : Type} [World σ]

/-- What a call does; its result does not matter here. -/
def operation (registry : Registry) : Call → Operation σ Unit
  | startup => registry.ensureReady
  | shutdown => Registry.shutdown
  | createIndex indexId schemaName schema => registry.createIndex indexId schemaName schema
  | bindIndex indexId binding => registry.bind indexId binding
  | bindValue indexId binding => registry.bindValue indexId binding
  | describeIndex indexId => discard (registry.describe indexId)
  | deleteIndex indexId => registry.delete indexId
  | listIndexes params => discard (registry.list params)
  | nextPage page => discard (page.next registry.loadPage)
  | query indexId input => discard ((registry.handle indexId).query input)
  | upsert indexId documents => discard ((registry.handle indexId).upsert documents)
  | patch indexId patches => discard ((registry.handle indexId).patch patches)
  | delete indexId keys => discard ((registry.handle indexId).delete keys)

/-- The session after several calls, one after the other.  A call that fails does not keep the
others from running. -/
def run (registry : Registry) (calls : List Call) (session : Session σ) : Session σ :=
  calls.foldl (fun session call => ((call.operation registry).perform session).2) session

end Call

end TableSearch
