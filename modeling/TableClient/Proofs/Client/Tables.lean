import TableClient.Proofs.Client.Endpoint
import TableClient.Proofs.Client.Session
import TableClient.Proofs.Url.Escaped

/-!
# Tables Known from Their Addresses

How the name of a table stands in the address of the table.

The name takes up one segment, between texts that depend on the configuration
alone. The segment is in the escaped form, so nothing in it ends a segment or a
path, starts a query or a fragment, or is a blank, whatever characters the name
has. The name is read back from it.

So the address tells the table. The requests of two calls go to one address just
if the calls are about one table, whether they are operations or finds.

## Main definitions

* `Call.table`: The table a call is about.

## Theorems

* `endpoint_inj`: An address is that of one table.
* `Call.url_of_mem`: The requests of a call go to the address of its table.
* `endpoint_tells_table`: A table is known from its address.
-/

namespace TableClient

namespace Client

/-- Under one configuration, an address is that of one table. -/
theorem endpoint_inj (config : Config) {first second : String} :
    endpoint config first = endpoint config second ↔ first = second := by
  refine ⟨fun h => ?_, fun h => by rw [h]⟩
  have hchars := congrArg String.toList h
  simp only [endpoint, String.toList_append] at hchars
  -- The address differs in the segment only, if at all.
  have hsegment := List.append_cancel_left (List.append_cancel_right hchars)
  exact Url.encode_inj.1 (String.toList_inj.1 hsegment)

end Client

namespace Call

/-- The table a call is about. -/
def table : Call → String
  | .operation op => op.table
  | .find f => f.table

/-- The requests of a call go to the address of its table. -/
theorem url_of_mem {config : Config} {handler : Handler} {call : Call} {request : Request}
    (h : request ∈ (call.perform config handler).requests) :
    request.url = Client.endpoint config call.table := by
  cases call with
  | operation op => exact Client.url_of_mem_requests h
  | find f =>
      simp only [perform, Command.Find.perform] at h
      cases hselector : f.selector? with
      | error fault =>
          rw [hselector] at h
          cases h
      | ok selector =>
          rw [hselector] at h
          -- A find does what an operation on the same table does.
          have htable : (Command.Find.operation f.table selector).table = f.table := by
            cases selector <;> rfl
          rw [Client.url_of_mem_requests h, htable, table]

end Call

namespace Client

/-- The address of a table has one segment for its name. The segment is escaped, it
    holds nothing that has another meaning in an address, and the name is read back
    from it; no other escaped text is read as this name. So an address is that of one
    table, and requests go to one address just if they are about one table. -/
theorem endpoint_tells_table (config : Config) (table : String) :
    (∃ segment : String,
      endpoint config table
        = config.baseUrl ++ "/apps/" ++ config.appId ++ "/tables/" ++ segment ++ "/Action" ∧
      Url.Escaped segment.toList ∧
      (∀ mark ∈ ['/', '?', '#', ' '], mark ∉ segment.toList) ∧
      Text.ofUtf8? (Url.decodeBytes segment.toList) = some table ∧
      ∀ other : String, Url.Escaped other.toList →
        Text.ofUtf8? (Url.decodeBytes other.toList) = some table → other = segment) ∧
    (∀ other, endpoint config other = endpoint config table ↔ other = table) ∧
    ∀ (call : Call) (handler : Handler), ∀ request ∈ (call.perform config handler).requests,
      (request.url = endpoint config table ↔ call.table = table) ∧
      ∀ (other : Call) (handler' : Handler),
        ∀ request' ∈ (other.perform config handler').requests,
          (request.url = request'.url ↔ call.table = other.table) := by
  refine ⟨⟨Url.encode table, rfl, Url.escaped_encode table, ?_,
    Url.ofUtf8?_decodeBytes_encode table, ?_⟩, fun other => endpoint_inj config, ?_⟩
  · intro mark hmark hmem
    have hmarks : (['/', '?', '#', ' '].all fun d => !decide (Url.Unreserved d) && d != '%') = true :=
      by decide
    exact Url.not_mem_marks hmarks hmem hmark
  · intro other hform hread
    exact Url.eq_encode_iff.2 ⟨hform, hread⟩
  · intro call handler request hrequest
    rw [Call.url_of_mem hrequest]
    refine ⟨endpoint_inj config, ?_⟩
    intro other handler' request' hrequest'
    rw [Call.url_of_mem hrequest']
    exact endpoint_inj config

end Client

end TableClient
