import Ddl.Proofs.Json.Nulls
import Ddl.Proofs.Script.Statements
import Mathlib

/-! A script is answered like the list of its statements. -/

namespace Ddl

variable {name : Text} {body scriptBody listBody : List UInt8} {limit : Int} {value : Text}
  {values statements : List Text}

namespace Input

/-- A text that is not empty is accepted as it is. -/
theorem text_of_field (given : field name body = .ok (.string value)) (present : value ≠ []) :
    text name body = .ok value := by
  obtain ⟨first, rest, rfl⟩ := List.exists_cons_of_ne_nil present
  rw [text, given]
  rfl

/-- Texts of which there is at least one are accepted as they are. -/
theorem texts_of_field (given : field name body = .ok (.array (values.map .string)))
    (present : values ≠ []) : texts name body = .ok (values.map .ofText) := by
  obtain ⟨first, rest, rfl⟩ := List.exists_cons_of_ne_nil present
  -- Nothing is said about items that are texts, and each of them is its own text.
  have silent :
      ((first :: rest).map Json.string).zipIdx.filterMap (itemComplaint? name) = [] := by
    rw [List.filterMap_eq_nil_iff]
    rintro ⟨item, index⟩ member
    obtain ⟨value, _, rfl⟩ := List.mem_map.mp (List.fst_mem_of_mem_zipIdx member)
    rfl
  have kept : ((first :: rest).map Json.string).filterMap itemText? =
      (first :: rest).map .ofText := by
    rw [List.filterMap_map, ← List.filterMap_eq_map]
    rfl
  rw [texts, given]
  simp only [bind, Except.bind, List.map_cons] at silent kept ⊢
  rw [silent, kept]
  rfl

end Input

namespace Endpoint

/-- The path of an endpoint leads to it. -/
theorem leadsTo?_path (endpoint : Endpoint) : leadsTo? endpoint.path = some endpoint := by
  cases endpoint <;> decide

/-- The methods of endpoints are written in capital letters. -/
theorem capitalize_method (endpoint : Endpoint) : endpoint.method.capitalize = endpoint.method := by
  cases endpoint <;> decide

/-- A request with the method and the path of an endpoint gets its reply. -/
theorem reply_request (endpoint : Endpoint) (limit : Int) (body : List UInt8) :
    Request.reply limit ⟨endpoint.method, endpoint.path, body⟩ = endpoint.reply limit body := by
  simp [Request.reply, leadsTo?_path, capitalize_method]

/-- A reply that can be written is the answer. -/
theorem answer_of_reply (endpoint : Endpoint) {response : Response}
    (replied : endpoint.reply limit body = .ok response) :
    Request.answer limit ⟨endpoint.method, endpoint.path, body⟩ = response := by
  rw [Request.answer, reply_request, replied]

/-- The answer to texts can be written, and it is the answer to statements. -/
theorem writtenAnswer_ofText (limit : Int) (statements : List Text) :
    writtenAnswer limit (statements.map .ofText) =
      (answerStatements limit statements).body.written := by
  -- Nothing stands in for anything, so that both readings are the same one.
  simp only [writtenAnswer, StandIn.map_fill_ofText, StandIn.merge_self]

/-- No half of a pair is in the answer to texts. -/
theorem isWhole_writtenAnswer_ofText (limit : Int) (statements : List Text) :
    (writtenAnswer limit (statements.map .ofText)).IsWhole := by
  rw [writtenAnswer_ofText]
  exact (Response.full_ofPlan _).whole

/-- The reply to items depends on whether halves of pairs have to be written in it. -/
theorem replyToItems_of_isWhole {items : List RawText}
    (whole : (writtenAnswer limit items).IsWhole) : replyToItems limit items =
      .ok (answerStatements limit (items.map (StandIn.fill StandIn.firstRow))) := by
  rw [replyToItems, RawText.unwritable?_eq_none_iff.mpr whole]

/-- Items that are texts get the answer to statements. -/
theorem replyToItems_ofText (limit : Int) (statements : List Text) :
    replyToItems limit (statements.map .ofText) = .ok (answerStatements limit statements) := by
  rw [replyToItems_of_isWhole (isWhole_writtenAnswer_ofText limit statements),
    StandIn.map_fill_ofText]

/-- A script with statements is answered like the list of them. -/
theorem answerScript_of_statements {script : Text}
    (split : Script.statements script = .ok statements) (present : statements ≠ []) :
    answerScript limit script = answerStatements limit statements := by
  obtain ⟨first, rest, rfl⟩ := List.exists_cons_of_ne_nil present
  rw [answerScript, split]

end Endpoint

namespace Script

/-- Statements that are joined are more than nothing. -/
theorem join_cut_ne_nil (present : statements ≠ [])
    (singles : ∀ statement ∈ statements, IsStatement statement) :
    Text.join cut statements ≠ [] := by
  -- The empty script has no statements, and this one has those that were joined.
  intro empty
  have list := statements_join singles
  rw [empty, statements_nil, Except.ok.injEq] at list
  exact present list.symm

end Script

namespace Request

/-- A body with a statement is answered at the place for one statement. -/
theorem answer_of_statement (valid : Input.text "ddl".toList body = .ok value) :
    answer limit ⟨"POST".toList, "/api/tables/parse".toList, body⟩ =
      Endpoint.answerStatement limit value := by
  refine Endpoint.answer_of_reply .parse ?_
  rw [Endpoint.reply, valid, Endpoint.replyToChecked]

/-- A body with a list is answered at the place for lists, if the answer can be written. -/
theorem answer_of_items {items : List RawText} {response : Response}
    (valid : Input.texts "ddls".toList body = .ok items)
    (replied : Endpoint.replyToItems limit items = .ok response) :
    answer limit ⟨"POST".toList, "/api/tables/parse-multiple".toList, body⟩ = response := by
  refine Endpoint.answer_of_reply .parseMultiple ?_
  rw [Endpoint.reply, valid, Endpoint.replyToChecked, replied]

/-- A body with a script is answered at the place for scripts. -/
theorem answer_of_script (valid : Input.text "script".toList body = .ok value) :
    answer limit ⟨"POST".toList, "/api/tables/parse-script".toList, body⟩ =
      Endpoint.answerScript limit value := by
  refine Endpoint.answer_of_reply .parseScript ?_
  rw [Endpoint.reply, valid, Endpoint.replyToChecked]

open Script

/-- A script of statements that are joined by cuts gets the response that the list of the statements
gets: a plan, the errors of statements, or the reason for which they cannot be ordered. -/
theorem answer_script_eq_list (limit : Int) (present : statements ≠ [])
    (singles : ∀ statement ∈ statements, IsStatement statement)
    (script : Input.field "script".toList scriptBody = .ok (.string (Text.join cut statements)))
    (list : Input.field "ddls".toList listBody = .ok (.array (statements.map .string))) :
    answer limit ⟨"POST".toList, "/api/tables/parse-script".toList, scriptBody⟩ =
        answer limit ⟨"POST".toList, "/api/tables/parse-multiple".toList, listBody⟩ ∧
      answer limit ⟨"POST".toList, "/api/tables/parse-multiple".toList, listBody⟩ =
        .ofPlan (Plan.ofStatements (some limit) statements) := by
  have listed : answer limit ⟨"POST".toList, "/api/tables/parse-multiple".toList, listBody⟩ =
      .ofPlan (Plan.ofStatements (some limit) statements) :=
    answer_of_items (Input.texts_of_field list present) (Endpoint.replyToItems_ofText _ _)
  refine ⟨?_, listed⟩
  -- The script has just the statements of the list.
  rw [listed, answer_of_script (Input.text_of_field script (join_cut_ne_nil present singles)),
    Endpoint.answerScript_of_statements (statements_join singles) present]
  rfl

/-- A statement that holds a semicolon in a comment, and one that creates no table. -/
theorem answer_script_eq_list_pair :
    (∀ statement ∈ ["CREATE TABLE a (i INT) -- ;".toList, "b".toList], IsStatement statement) ∧
      answer 30 ⟨"POST".toList, "/api/tables/parse-script".toList,
        "\x7b\"script\": \"CREATE TABLE a (i INT) -- ;\\n;b\"\x7d".toUTF8.data.toList⟩ =
      answer 30 ⟨"POST".toList, "/api/tables/parse-multiple".toList,
        "\x7b\"ddls\": [\"CREATE TABLE a (i INT) -- ;\", \"b\"]\x7d".toUTF8.data.toList⟩ := by
  have first : IsStatement "CREATE TABLE a (i INT) -- ;".toList := by
    unfold IsStatement
    cbv
  have second : IsStatement "b".toList := by
    unfold IsStatement
    cbv
  have singles : ∀ statement ∈ ["CREATE TABLE a (i INT) -- ;".toList, "b".toList],
      IsStatement statement := by
    simp only [List.forall_mem_cons]
    exact ⟨first, second, by simp⟩
  exact ⟨singles, (answer_script_eq_list 30 (by simp) singles (by cbv) (by cbv)).1⟩

end Request

end Ddl
