import TableClient.Proofs.Client.Requests
import TableClient.Proofs.Config.BaseUrl
import TableClient.Proofs.Url.Site
import TableClient.Transport.Web

/-!
# Where the Address of a Table Leads

The path of the address of a table, as it is written and as it is read.

An address is not taken as it is written: its dot segments are worked out first.
The name of a table is encoded, so nothing in it ends its segment, and it stands
between segments without dots. But dots are not encoded. The names `.` and `..`
are their own segments, and they go when the address is read: the first one alone,
and the second one with the segment in front. All other names stay where they are,
those with dots among other characters too.

## Main definitions

* `Config.OnSite`: The addresses of a configuration stand on a host, behind a path
  without dots.
* `Client.tableSegments`: The segments that are written for a table.
* `Client.reachedSegments`: The segments that are left when they are read.

## Theorems

* `removeDotSegments_tableSegments`, `removeDots_tableSegments`: What is left of the
  path of a table, as a text and as segments.
* `endpoint_reaches`: Where the address of a table leads, and when that is where it
  says.
-/

namespace TableClient

open Url (Address Path)

/-- The base of a configuration is a host of the web with a path of plain segments,
    and its application can be told in a segment as it is. -/
structure Config.OnSite (config : Config) (host : List Char) (base : List (List Char)) : Prop where
  baseUrl_eq : config.baseUrl = .ofList ("https://".toList ++ (host ++ (Path.segments base).text))
  namesHost : Url.NamesHost host
  base_plain : ∀ segment ∈ base, Url.Plain segment
  appId_literal : Url.Literal config.appId.toList
  appId_ne_dot : config.appId ≠ "."
  appId_ne_doubleDot : config.appId ≠ ".."

namespace Client

/-- The segments that are written for an application. -/
def applicationSegments (config : Config) : List (List Char) :=
  ["apps".toList, config.appId.toList]

/-- The segments that are written for a table. -/
def tableSegments (config : Config) (table : String) : List (List Char) :=
  applicationSegments config ++ ["tables".toList, (Url.encode table).toList, "Action".toList]

/-- The segments that are left for a table once the dot segments are worked out. -/
def reachedSegments (config : Config) (table : String) : List (List Char) :=
  if table = "." then applicationSegments config ++ ["tables".toList, "Action".toList]
  else if table = ".." then applicationSegments config ++ ["Action".toList]
  else tableSegments config table

variable {config : Config} {host : List Char} {base : List (List Char)}

/-! ### The segments of a table -/

/-- Nothing in the segments of an application is special. -/
theorem plain_applicationSegments (h : config.OnSite host base) :
    ∀ segment ∈ base ++ applicationSegments config, Url.Plain segment := by
  intro segment hsegment
  rcases List.mem_append.1 hsegment with hbase | happlication
  · exact h.base_plain segment hbase
  · simp only [applicationSegments, List.mem_cons, List.not_mem_nil, or_false] at happlication
    rcases happlication with rfl | rfl
    · exact Url.plain_of_literal (by decide) (by decide) (by decide)
    · exact Url.plain_of_literal h.appId_literal h.appId_ne_dot h.appId_ne_doubleDot

theorem plain_tables : Url.Plain "tables".toList :=
  Url.plain_of_literal (by decide) (by decide) (by decide)

theorem plain_action : Url.Plain "Action".toList :=
  Url.plain_of_literal (by decide) (by decide) (by decide)

/-- What holds of plain segments and of the encoded name holds of all segments of
    a table. -/
theorem forall_tableSegments {P : List Char → Prop} (h : config.OnSite host base)
    (hplain : ∀ segment, Url.Plain segment → P segment) {table : String}
    (htable : P (Url.encode table).toList) :
    ∀ segment ∈ base ++ tableSegments config table, P segment := by
  intro segment hsegment
  rw [tableSegments, ← List.append_assoc] at hsegment
  rcases List.mem_append.1 hsegment with happlication | hbehind
  · exact hplain segment (plain_applicationSegments h segment happlication)
  · simp only [List.mem_cons, List.not_mem_nil, or_false] at hbehind
    rcases hbehind with rfl | rfl | rfl
    · exact hplain _ plain_tables
    · exact htable
    · exact hplain _ plain_action

/-- Nothing in the segments of a table ends a segment or a path. -/
theorem clean_tableSegments (h : config.OnSite host base) (table : String) :
    ∀ segment ∈ base ++ tableSegments config table, Url.Clean segment :=
  forall_tableSegments h (fun _ hplain => hplain.clean) (Url.clean_encode table)

/-- The address of a table is its segments behind those of the base. -/
theorem endpoint_eq (h : config.OnSite host base) (table : String) :
    endpoint config table
      = .ofList ("https://".toList
          ++ (host ++ (Path.segments (base ++ tableSegments config table)).text)) := by
  apply String.toList_inj.1
  rw [Config.toList_endpoint, h.baseUrl_eq, String.toList_ofList, String.toList_ofList]
  simp [Path.text, tableSegments, applicationSegments]

/-! ### What is left of them -/

theorem toList_encode_dot : (Url.encode ".").toList = ['.'] := by
  rw [Url.encode_eq_self (by decide)]
  rfl

theorem toList_encode_doubleDot : (Url.encode "..").toList = ['.', '.'] := by
  rw [Url.encode_eq_self (by decide)]
  rfl

/-- What is left of the path of a table, as a text. -/
theorem removeDotSegments_tableSegments (h : config.OnSite host base) (table : String) :
    Url.removeDotSegments (Path.segments (base ++ tableSegments config table)).text
      = (Path.segments (base ++ reachedSegments config table)).text := by
  have happlication : ∀ segment ∈ base ++ applicationSegments config, Url.Written segment :=
    fun segment hsegment => (plain_applicationSegments h segment hsegment).written
  have haction : ∀ segment ∈ ["Action".toList], Url.Written segment :=
    List.forall_mem_singleton.2 plain_action.written
  unfold Url.removeDotSegments reachedSegments
  split
  · next hdot =>
      -- The dot goes, and what is in front of it and behind it stays.
      rw [hdot, tableSegments, toList_encode_dot, ← List.append_assoc,
        Url.removeDotSegmentsFrom_append happlication,
        Url.removeDotSegmentsFrom_written plain_tables.written, Url.removeDotSegmentsFrom_dot,
        Url.removeDotSegmentsFrom_eq_append haction]
      simp [Path.text]
  · next hdot =>
      split
      · next hdoubleDot =>
          -- The dots take the segment back that was moved right before them.
          rw [hdoubleDot, tableSegments, toList_encode_doubleDot, ← List.append_assoc,
            Url.removeDotSegmentsFrom_append happlication,
            Url.removeDotSegmentsFrom_written plain_tables.written,
            Url.removeDotSegmentsFrom_doubleDot _ plain_tables.written.1,
            Url.removeDotSegmentsFrom_eq_append haction]
          simp [Path.text]
      · next hdoubleDot =>
          have hall : ∀ segment ∈ base ++ tableSegments config table, Url.Written segment :=
            forall_tableSegments h (fun _ hplain => hplain.written)
              (Url.plain_encode hdot hdoubleDot).written
          rw [Url.removeDotSegmentsFrom_eq_append hall, List.nil_append]

/-- What is left of the segments of a table when they are read. -/
theorem removeDots_tableSegments (h : config.OnSite host base) (table : String) :
    Url.removeDots (base ++ tableSegments config table)
      = base ++ reachedSegments config table := by
  have happlication := plain_applicationSegments h
  have haction : ∀ segment ∈ ["Action".toList], Url.Plain segment :=
    List.forall_mem_singleton.2 plain_action
  have hdrive : Url.startsWithDrive "tables".toList = false := by decide
  unfold Url.removeDots reachedSegments
  split
  · next hdot =>
      rw [hdot, tableSegments, toList_encode_dot, ← List.append_assoc,
        Url.removeDotsFrom_append happlication, Url.removeDotsFrom_cons plain_tables,
        Url.removeDotsFrom_dot, Url.removeDotsFrom_eq_append haction]
      simp
  · next hdot =>
      split
      · next hdoubleDot =>
          rw [hdoubleDot, tableSegments, toList_encode_doubleDot, ← List.append_assoc,
            Url.removeDotsFrom_append happlication, Url.removeDotsFrom_cons plain_tables,
            Url.removeDotsFrom_doubleDot _ hdrive, Url.removeDotsFrom_eq_append haction]
          simp
      · next hdoubleDot =>
          have hall : ∀ segment ∈ base ++ tableSegments config table, Url.Plain segment :=
            forall_tableSegments h (fun _ hplain => hplain) (Url.plain_encode hdot hdoubleDot)
          rw [Url.removeDotsFrom_eq_append hall]
          rfl

/-- The segments that are left need no escapes. -/
theorem map_encodeSegment_reachedSegments (h : config.OnSite host base) (table : String) :
    (reachedSegments config table).map Url.encodeSegment = reachedSegments config table := by
  have happs : Url.encodeSegment "apps".toList = "apps".toList :=
    Url.encodeSegment_of_literal (by decide)
  have happId := Url.encodeSegment_of_literal h.appId_literal
  have htables : Url.encodeSegment "tables".toList = "tables".toList :=
    Url.encodeSegment_of_literal (by decide)
  have htable := Url.encodeSegment_encode table
  have haction : Url.encodeSegment "Action".toList = "Action".toList :=
    Url.encodeSegment_of_literal (by decide)
  simp only [reachedSegments, tableSegments, applicationSegments]
  split_ifs <;>
    simp only [List.map_append, List.map_cons, List.map_nil, happs, happId, htables, htable,
      haction]

/-! ### Where the address leads -/

/-- Something is lost if and only if the name of the table is one of dots. -/
theorem text_reachedSegments_eq_iff (config : Config) (base : List (List Char)) (table : String) :
    (Path.segments (base ++ reachedSegments config table)).text
        = (Path.segments (base ++ tableSegments config table)).text
      ↔ table ≠ "." ∧ table ≠ ".." := by
  constructor
  · intro h
    -- A path that has lost something is shorter.
    have hlength := congrArg List.length h
    refine ⟨?_, ?_⟩ <;> rintro rfl
    · simp [reachedSegments, tableSegments, applicationSegments, Path.text,
        toList_encode_dot] at hlength
    · simp [reachedSegments, tableSegments, applicationSegments, Path.text,
        toList_encode_doubleDot] at hlength
  · rintro ⟨hdot, hdoubleDot⟩
    rw [reachedSegments, if_neg hdot, if_neg hdoubleDot]

/-- What an operation sends goes to the address of its table. -/
theorem url_of_mem_requests {handler : Handler} {op : Operation} {request : Request}
    (h : request ∈ (perform config handler op).requests) :
    request.url = endpoint config op.table := by
  rw [Operation.requests_perform, Operation.contribution] at h
  split at h
  · rw [List.mem_singleton.1 h]
    rfl
  · cases h

/-- A request is sent to the address that its text spells. -/
theorem ofText?_of_address {request : Request} {address : Address}
    (h : Transport.address request = .ok address) :
    Address.ofText? request.url = some address := by
  unfold Transport.address at h
  split at h
  · cases h
  · next spelled hspelled =>
      split at h
      · cases h
      · split at h
        · cases h
        · simp only [] at h
          split at h
          · rw [hspelled, Except.ok.inj h]
          · cases h

/-- The address of a table leads to the segments that are left for it, and these are
    the segments that are written for it unless its name is one of dots. -/
theorem endpoint_reaches (h : config.OnSite host base) (table : String) :
    (Url.writtenPath (endpoint config table)
        = (Path.segments (base ++ tableSegments config table)).text ∧
      Url.removeDotSegments (Url.writtenPath (endpoint config table))
        = (Path.segments (base ++ reachedSegments config table)).text) ∧
    (Url.removeDotSegments (Url.writtenPath (endpoint config table))
        = Url.writtenPath (endpoint config table) ↔ table ≠ "." ∧ table ≠ "..") ∧
    (Address.ofText? (endpoint config table)
      = (Address.ofText? (.ofList ("https://".toList ++ host))).map fun site =>
          { site with
            path := .segments (base.map Url.encodeSegment ++ reachedSegments config table) }) ∧
    ∀ (handler : Handler) (op : Operation) (request : Request) (address : Address),
      op.table = table → request ∈ (perform config handler op).requests →
      Transport.address request = .ok address →
      address.path = .segments (base.map Url.encodeSegment ++ reachedSegments config table) := by
  have hclean := clean_tableSegments h table
  have hwritten : Url.writtenPath (endpoint config table)
      = (Path.segments (base ++ tableSegments config table)).text := by
    rw [endpoint_eq h, Url.writtenPath_append h.namesHost hclean]
  have hread : Address.ofText? (endpoint config table)
      = (Address.ofText? (.ofList ("https://".toList ++ host))).map fun site =>
          { site with
            path := .segments (base.map Url.encodeSegment ++ reachedSegments config table) } := by
    have hne : base ++ tableSegments config table ≠ [] := by
      simp [tableSegments, applicationSegments]
    rw [endpoint_eq h, Address.ofText?_append h.namesHost hclean,
      Address.pathOf_segments hne hclean, removeDots_tableSegments h, List.map_append,
      map_encodeSegment_reachedSegments h]
  refine ⟨⟨hwritten, ?_⟩, ?_, hread, ?_⟩
  · rw [hwritten, removeDotSegments_tableSegments h]
  · rw [hwritten, removeDotSegments_tableSegments h, text_reachedSegments_eq_iff]
  · intro handler op request address htable hrequest haddress
    have hspelled := ofText?_of_address haddress
    rw [url_of_mem_requests hrequest, htable, hread] at hspelled
    obtain ⟨site, -, rfl⟩ := Option.map_eq_some_iff.1 hspelled
    rfl

theorem endpoint_reaches_above :
    ((Config.new "a" "k").withBaseUrl "https://[::1]").OnSite "[::1]".toList [] ∧
    Url.removeDotSegments
        (Url.writtenPath (endpoint ((Config.new "a" "k").withBaseUrl "https://[::1]") ".."))
      = "/apps/a/Action".toList ∧
    (Transport.address ((Operation.readAll "..").request
        ((Config.new "a" "k").withBaseUrl "https://[::1]"))).map Address.path
      = .ok (.segments ["apps".toList, "a".toList, "Action".toList]) := by
  have hsite : ((Config.new "a" "k").withBaseUrl "https://[::1]").OnSite "[::1]".toList [] :=
    { baseUrl_eq := by decide
      namesHost := ⟨by decide, by decide, by decide⟩
      base_plain := fun _ hsegment => absurd hsegment List.not_mem_nil
      appId_literal := by decide
      appId_ne_dot := by decide
      appId_ne_doubleDot := by decide }
  obtain ⟨⟨-, hremoved⟩, -, -, hsent⟩ := endpoint_reaches hsite ".."
  refine ⟨hsite, hremoved.trans (by decide), ?_⟩
  have hreadable : (Transport.address ((Operation.readAll "..").request
      ((Config.new "a" "k").withBaseUrl "https://[::1]"))).isOk = true := by decide
  cases haddress : Transport.address ((Operation.readAll "..").request
      ((Config.new "a" "k").withBaseUrl "https://[::1]")) with
  | error fault =>
      rw [haddress] at hreadable
      cases hreadable
  | ok address =>
      have hpath := hsent (fun _ => .ok .null) (.readAll "..") _ address rfl
        (List.mem_singleton.2 rfl) haddress
      exact congrArg Except.ok (hpath.trans (by decide))

/-- Without a base of its own, an application is told behind the default base. -/
theorem onSite_new {appId : String} (accessKey : String)
    (h : Url.Literal appId.toList) (hdot : appId ≠ ".") (hdoubleDot : appId ≠ "..") :
    (Config.new appId accessKey).OnSite "api.appsheet.com".toList ["api".toList, "v2".toList] where
  baseUrl_eq := by
    have hdefault : Config.defaultBaseUrl = .ofList ("https://".toList
        ++ ("api.appsheet.com".toList ++ (Path.segments ["api".toList, "v2".toList]).text)) := by
      decide
    exact hdefault
  namesHost := ⟨by decide, by decide, by decide⟩
  base_plain := by
    intro segment hsegment
    simp only [List.mem_cons, List.not_mem_nil, or_false] at hsegment
    rcases hsegment with rfl | rfl <;>
      exact Url.plain_of_literal (by decide) (by decide) (by decide)
  appId_literal := h
  appId_ne_dot := hdot
  appId_ne_doubleDot := hdoubleDot

/-- Two dots as the name of a table lead out of the tables. -/
theorem endpoint_doubleDot_not_kept :
    (Config.new "a" "k").OnSite "api.appsheet.com".toList ["api".toList, "v2".toList] ∧
    Url.removeDotSegments (Url.writtenPath (endpoint (Config.new "a" "k") ".."))
      ≠ Url.writtenPath (endpoint (Config.new "a" "k") "..") := by
  have happId : Url.Literal "a".toList := by decide
  have hsite := onSite_new "k" happId (by decide) (by decide)
  refine ⟨hsite, fun hkept => ?_⟩
  rw [endpoint_eq hsite, Url.writtenPath_append hsite.namesHost (clean_tableSegments hsite ".."),
    removeDotSegments_tableSegments hsite, text_reachedSegments_eq_iff] at hkept
  exact hkept.2 rfl

end Client

end TableClient
