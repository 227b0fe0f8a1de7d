import Roole.Core.ConfigFile
import Roole.Lib.Http

/-!
# The metrics server

`metrics_server.c`: a request is what one `recv` returns, the first two words of it
are the method and the path, and the answer is sent with one `send` for the header
and one for the body.
-/

namespace Roole

open Http Scanning

def maxRequestSize : Nat := 4096

-- ----------------------------------------------------------------------------
-- Answers
-- ----------------------------------------------------------------------------

structure HttpAnswer where
  statusLine : List UInt8
  contentType : List UInt8
  body : List UInt8
  deriving DecidableEq

def badRequest : HttpAnswer :=
  ⟨chars "400 Bad Request", chars "text/plain", chars "400 Bad Request\n"⟩

def notFound : HttpAnswer :=
  ⟨chars "404 Not Found", chars "text/plain", chars "404 Not Found\n"⟩

def internalError : HttpAnswer :=
  ⟨chars "500 Internal Server Error", chars "text/plain", chars "500 Internal Server Error\n"⟩

def infoPage : HttpAnswer :=
  ⟨chars "200 OK", chars "text/plain", chars "Roole Metrics Server\n" ++ chars "\n" ++
    chars "Available endpoints:\n" ++ chars "  GET /metrics - Prometheus metrics\n"⟩

def metricsPage (metricsText : List UInt8) : HttpAnswer :=
  ⟨chars "200 OK", chars "text/plain; version=0.0.4; charset=utf-8", metricsText⟩

def HttpAnswer.header (answer : HttpAnswer) : List UInt8 :=
  chars "HTTP/1.1 " ++ answer.statusLine ++ chars "\r\n" ++
    (chars "Content-Type: " ++ answer.contentType ++ chars "\r\n") ++
    (chars "Content-Length: " ++ printInt (strlen answer.body) ++ chars "\r\n") ++
    chars "Connection: close\r\n" ++ chars "Server: roole-metrics/1.0\r\n" ++ chars "\r\n"

/-- The bytes that `send` takes of the header and of the body, unless it fails. -/
structure SendResults where
  header : Option Nat
  body : Option Nat

def sendHttpResponse (answer : HttpAnswer) (sends : SendResults) : List UInt8 :=
  let header := answer.header
  let body := cString answer.body
  if header.length ≥ 1024 then []
  else
    match sends.header with
    | none => []
    | some sent =>
      header.take sent ++ if body.length > 0 then body.take (sends.body.getD 0) else []

structure SendResults.TakeAll (sends : SendResults) (answer : HttpAnswer) : Prop where
  header : ∃ sent, sends.header = some sent ∧ answer.header.length ≤ sent
  body : strlen answer.body ≤ sends.body.getD 0

-- ----------------------------------------------------------------------------
-- Requests
-- ----------------------------------------------------------------------------

def parseHttpRequest (request : List UInt8) : Option (List UInt8 × List UInt8) :=
  (nextWord isSpace 63 request).bind fun (method, rest) =>
    (nextWord isSpace 255 rest).map fun (path, _) => (method, path)

/-- `metricsText` is the registry as it is rendered, unless there is no memory. -/
def handleMetricsRequest (metricsText : Option (List UInt8)) : HttpAnswer :=
  match metricsText with
  | none => internalError
  | some metricsText => metricsPage metricsText

def routeHttpRequest (metricsText : Option (List UInt8)) (request : List UInt8) : HttpAnswer :=
  match parseHttpRequest request with
  | none => badRequest
  | some (method, path) =>
    if method = chars "GET" ∧ path = chars "/metrics" then handleMetricsRequest metricsText
    else if method = chars "GET" ∧ path = chars "/" then infoPage
    else notFound

/-- `received` is what waits to be read, nothing if `recv` fails. -/
def handleHttpRequest (metricsText : Option (List UInt8)) (received : Option (List UInt8))
    (sends : SendResults) : List UInt8 :=
  match received.map fun received => received.take (maxRequestSize - 1) with
  | none | some [] => []
  | some request => sendHttpResponse (routeHttpRequest metricsText (cString request)) sends

-- ----------------------------------------------------------------------------
-- The response in an answer
-- ----------------------------------------------------------------------------

namespace HttpAnswer

def response (answer : HttpAnswer) : Http.Response where
  status := answer.statusLine
  fields := [(chars "Content-Type", answer.contentType),
    (chars "Content-Length", printInt (strlen answer.body)),
    (chars "Connection", chars "close"), (chars "Server", chars "roole-metrics/1.0")]
  body := cString answer.body

structure Plain (answer : HttpAnswer) : Prop where
  statusLine : cr ∉ answer.statusLine
  contentType : cr ∉ answer.contentType
  short : answer.statusLine.length + answer.contentType.length ≤ 100
  body : Stray (cString answer.body)
  body_lt : strlen answer.body < 2 ^ 64

theorem head_response (answer : HttpAnswer) : answer.response.head = answer.header := by
  have hcrlf : crlf = chars "\r\n" := rfl
  have hcolon : ∀ value, colon :: 32 :: value = chars ": " ++ value := fun _ => rfl
  have hversion : version = chars "HTTP/1.1 " := rfl
  have htype : chars "Content-Type: " = chars "Content-Type" ++ chars ": " := by decide
  have hlength : chars "Content-Length: " = chars "Content-Length" ++ chars ": " := by decide
  have hclose : chars "Connection: close\r\n" =
      chars "Connection" ++ (chars ": " ++ (chars "close" ++ chars "\r\n")) := by decide
  have hserver : chars "Server: roole-metrics/1.0\r\n" =
      chars "Server" ++ (chars ": " ++ (chars "roole-metrics/1.0" ++ chars "\r\n")) := by decide
  simp only [Response.head, response, fieldLines, Field.line, header, hcrlf, hcolon, hversion,
    htype, hlength, hclose, hserver, List.flatMap_cons, List.flatMap_nil, List.append_nil,
    List.append_assoc]

theorem print_cr (n : Nat) : cr ∉ Decimal.print n := fun hmem =>
  absurd (Decimal.isDigit_of_mem n cr hmem) (by decide)

theorem printInt_nat (n : Nat) : printInt n = Decimal.print n := by
  rw [printInt, if_neg (by omega), Int.natAbs_natCast]

variable {answer : HttpAnswer}

theorem Plain.wellFormed (h : answer.Plain) : answer.response.WellFormed where
  status := h.statusLine
  fields := by
    have hnames : ∀ name ∈ [chars "Content-Type", chars "Content-Length", chars "Connection",
        chars "Server"], colon ∉ name ∧ cr ∉ name := by decide
    have hnumber : cr ∉ printInt (strlen answer.body) := by
      rw [printInt_nat]
      exact print_cr _
    simp only [List.forall_mem_cons] at hnames
    obtain ⟨htype, hlength, hconnection, hserver, -⟩ := hnames
    simp only [response, List.forall_mem_cons, List.not_mem_nil, false_imp_iff, implies_true,
      and_true]
    exact ⟨⟨htype.1, htype.2, h.contentType⟩, ⟨hlength.1, hlength.2, hnumber⟩,
      ⟨hconnection.1, hconnection.2, by decide⟩, ⟨hserver.1, hserver.2, by decide⟩⟩
  framed := by
    have hlookup : answer.response.fields.lookup (asciiBytes "Content-Length") =
        some (Decimal.print (strlen answer.body)) := by
      rw [← printInt_nat]
      rfl
    rw [contentLength, hlookup, Option.bind_some, readNumber_print]
    rfl

theorem Plain.header_length_lt (h : answer.Plain) : answer.header.length < 1024 := by
  have hshort := h.short
  have hdigits : (Decimal.print (strlen answer.body)).length ≤ 20 :=
    Decimal.print_length_le (by decide) (h.body_lt.trans (by decide))
  have hfixed : (chars "HTTP/1.1 ").length + (chars "\r\n").length +
      (chars "Content-Type: ").length + (chars "\r\n").length +
      (chars "Content-Length: ").length + (chars "\r\n").length +
      (chars "Connection: close\r\n").length + (chars "Server: roole-metrics/1.0\r\n").length +
      (chars "\r\n").length = 93 := by decide
  simp only [header, List.length_append, printInt_nat]
  omega

/-- The client reads the response of the answer if both calls take all of it, and
nothing otherwise. -/
theorem Plain.readResponse_sent (h : answer.Plain) (sends : SendResults) (response : Response) :
    readResponse (sendHttpResponse answer sends) = some response ↔
      sends.TakeAll answer ∧ response = answer.response := by
  have hwell := h.wellFormed
  have hbody : ∀ n,
      (if (cString answer.body).length > 0 then (cString answer.body).take n else []) =
        (cString answer.body).take n := by
    intro n
    split_ifs with hpos
    · rfl
    · rw [List.length_eq_zero_iff.mp (Nat.eq_zero_of_not_pos hpos), List.take_nil]
  rw [sendHttpResponse]
  simp only [if_neg (Nat.not_le.mpr h.header_length_lt), hbody]
  cases hheader : sends.header with
  | none =>
    refine iff_of_false (fun hread => nomatch hread) fun ⟨htake, _⟩ => ?_
    obtain ⟨sent, hsent, -⟩ := htake.header
    rw [hheader] at hsent
    cases hsent
  | some sent =>
    dsimp only
    rw [← head_response]
    by_cases hcut : sent < answer.response.head.length
    · rw [hwell.readResponse_cut (h.body.take _) hcut]
      refine iff_of_false (fun hread => nomatch hread) fun ⟨htake, _⟩ => ?_
      obtain ⟨all, hall, hle⟩ := htake.header
      obtain rfl := Option.some.inj (hheader.symm.trans hall)
      exact absurd hcut (Nat.not_lt.mpr (head_response answer ▸ hle))
    · have hle : answer.response.head.length ≤ sent := Nat.le_of_not_lt hcut
      have htake : sends.TakeAll answer ↔ strlen answer.body ≤ sends.body.getD 0 :=
        ⟨fun htake => htake.body, fun hlen => ⟨⟨sent, hheader, head_response answer ▸ hle⟩, hlen⟩⟩
      have hlen : answer.response.body.length = strlen answer.body := rfl
      have hwhole : answer.response.body = cString answer.body := rfl
      rw [List.take_of_length_le hle, hwell.readResponse_head, htake, hlen, List.length_take]
      split_ifs with hall
      · have hfull : strlen answer.body ≤ sends.body.getD 0 := hall.trans (Nat.min_le_left _ _)
        rw [and_iff_right hfull, List.take_take, Nat.min_eq_left hfull, strlen, List.take_length,
          ← hwhole, Option.some.injEq, eq_comm]
      · refine iff_of_false (fun hread => nomatch hread) fun ⟨hfull, _⟩ => hall ?_
        exact Nat.le_min.mpr ⟨hfull, Nat.le_refl _⟩

end HttpAnswer

-- ----------------------------------------------------------------------------
-- Which answer a request gets
-- ----------------------------------------------------------------------------

/-- The answers by the words of the request. A first word of more than 63 bytes is
read as two words. -/
inductive RoutesTo (metricsText : Option (List UInt8)) (request : List UInt8) : HttpAnswer → Prop
  | blank (hblank : ∀ b ∈ request, isSpace b = true) : RoutesTo metricsText request badRequest
  | single (hfirst : BeginsWith isSpace first rest request) (hshort : first.length ≤ 63)
      (hrest : ∀ b ∈ rest, isSpace b = true) : RoutesTo metricsText request badRequest
  | long (hfirst : BeginsWith isSpace first rest request) (hlong : 63 < first.length) :
      RoutesTo metricsText request notFound
  | metrics (hfirst : BeginsWith isSpace (chars "GET") rest request)
      (hsecond : BeginsWith isSpace (chars "/metrics") more rest)
      (htext : metricsText = some text) : RoutesTo metricsText request (metricsPage text)
  | noMemory (hfirst : BeginsWith isSpace (chars "GET") rest request)
      (hsecond : BeginsWith isSpace (chars "/metrics") more rest) (htext : metricsText = none) :
      RoutesTo metricsText request internalError
  | info (hfirst : BeginsWith isSpace (chars "GET") rest request)
      (hsecond : BeginsWith isSpace (chars "/") more rest) : RoutesTo metricsText request infoPage
  | other (hfirst : BeginsWith isSpace first rest request) (hshort : first.length ≤ 63)
      (hsecond : BeginsWith isSpace second more rest)
      (hother : ¬ (first = chars "GET" ∧ (second = chars "/metrics" ∨ second = chars "/"))) :
      RoutesTo metricsText request notFound

theorem take_eq_short {word short : List UInt8} (hshort : short.length < width) :
    word.take width = short ↔ word = short := by
  constructor
  · rintro rfl
    rw [List.length_take] at hshort
    exact (List.take_of_length_le (by omega)).symm
  · rintro rfl
    exact List.take_of_length_le hshort.le

theorem parseHttpRequest_word (hfirst : BeginsWith isSpace first rest request)
    (hshort : first.length ≤ 63) : parseHttpRequest request =
      (nextWord isSpace 255 rest).map fun (path, _) => (first, path) := by
  rw [parseHttpRequest, hfirst.nextWord, Option.bind_some]
  simp only [List.take_of_length_le hshort, List.drop_of_length_le hshort, List.nil_append]

theorem parseHttpRequest_long (hfirst : BeginsWith isSpace first rest request)
    (hlong : 63 < first.length) :
    ∃ path, parseHttpRequest request = some (first.take 63, path) := by
  have hleft : ¬ ∀ b ∈ first.drop 63 ++ rest, isSpace b = true := by
    intro hall
    have hb : first[63] ∈ first.drop 63 := List.mem_drop_iff_getElem.mpr ⟨0, by omega, by simp⟩
    have hsolid := hfirst.solid _ (List.getElem_mem hlong)
    rw [hall _ (List.mem_append_left _ hb)] at hsolid
    cases hsolid
  obtain ⟨second, more, hsecond⟩ := exists_beginsWith hleft
  refine ⟨second.take 255, ?_⟩
  rw [parseHttpRequest, hfirst.nextWord, Option.bind_some]
  simp only [hsecond.nextWord, Option.map_some]

theorem routeHttpRequest_long (metricsText : Option (List UInt8))
    (hfirst : BeginsWith isSpace first rest request) (hlong : 63 < first.length) :
    routeHttpRequest metricsText request = notFound := by
  obtain ⟨path, hparse⟩ := parseHttpRequest_long hfirst hlong
  have hget : first.take 63 ≠ chars "GET" := by
    intro heq
    rw [take_eq_short (by decide)] at heq
    rw [heq] at hlong
    exact absurd hlong (by decide)
  rw [routeHttpRequest, hparse]
  simp only [hget, false_and, if_false]

theorem routeHttpRequest_words (metricsText : Option (List UInt8))
    (hfirst : BeginsWith isSpace first rest request) (hshort : first.length ≤ 63)
    (hsecond : BeginsWith isSpace second more rest) : routeHttpRequest metricsText request =
      if first = chars "GET" ∧ second = chars "/metrics" then handleMetricsRequest metricsText
      else if first = chars "GET" ∧ second = chars "/" then infoPage
      else notFound := by
  have hmetrics : second.take 255 = chars "/metrics" ↔ second = chars "/metrics" :=
    take_eq_short (by decide)
  have hroot : second.take 255 = chars "/" ↔ second = chars "/" := take_eq_short (by decide)
  rw [routeHttpRequest, parseHttpRequest_word hfirst hshort, hsecond.nextWord, Option.map_some]
  simp only [hmetrics, hroot]

theorem routeHttpRequest_routesTo (metricsText : Option (List UInt8)) (request : List UInt8) :
    RoutesTo metricsText request (routeHttpRequest metricsText request) := by
  by_cases hblank : ∀ b ∈ request, isSpace b = true
  · rw [routeHttpRequest, parseHttpRequest, nextWord_blank hblank]
    exact .blank hblank
  obtain ⟨first, rest, hfirst⟩ := exists_beginsWith hblank
  by_cases hlong : 63 < first.length
  · rw [routeHttpRequest_long metricsText hfirst hlong]
    exact .long hfirst hlong
  have hshort := Nat.le_of_not_lt hlong
  by_cases hrest : ∀ b ∈ rest, isSpace b = true
  · rw [routeHttpRequest, parseHttpRequest_word hfirst hshort, nextWord_blank hrest]
    exact .single hfirst hshort hrest
  obtain ⟨second, more, hsecond⟩ := exists_beginsWith hrest
  rw [routeHttpRequest_words metricsText hfirst hshort hsecond]
  split_ifs with hserved hinfo
  · obtain ⟨rfl, rfl⟩ := hserved
    cases metricsText with
    | none => exact .noMemory hfirst hsecond rfl
    | some text => exact .metrics hfirst hsecond rfl
  · obtain ⟨rfl, rfl⟩ := hinfo
    exact .info hfirst hsecond
  · refine .other hfirst hshort hsecond ?_
    rintro ⟨hget, hpath | hpath⟩
    · exact hserved ⟨hget, hpath⟩
    · exact hinfo ⟨hget, hpath⟩

theorem RoutesTo.eq_route (h : RoutesTo metricsText request answer) :
    answer = routeHttpRequest metricsText request := by
  cases h with
  | blank hblank =>
    rw [routeHttpRequest, parseHttpRequest, nextWord_blank hblank]
    rfl
  | single hfirst hshort hrest =>
    rw [routeHttpRequest, parseHttpRequest_word hfirst hshort, nextWord_blank hrest]
    rfl
  | long hfirst hlong => exact (routeHttpRequest_long metricsText hfirst hlong).symm
  | metrics hfirst hsecond htext =>
    rw [routeHttpRequest_words metricsText hfirst (by decide) hsecond, if_pos ⟨rfl, rfl⟩, htext]
    rfl
  | noMemory hfirst hsecond htext =>
    rw [routeHttpRequest_words metricsText hfirst (by decide) hsecond, if_pos ⟨rfl, rfl⟩, htext]
    rfl
  | info hfirst hsecond =>
    rw [routeHttpRequest_words metricsText hfirst (by decide) hsecond, if_neg (by decide),
      if_pos ⟨rfl, rfl⟩]
  | other hfirst hshort hsecond hother =>
    rw [routeHttpRequest_words metricsText hfirst hshort hsecond,
      if_neg fun heq => hother ⟨heq.1, .inl heq.2⟩, if_neg fun heq => hother ⟨heq.1, .inr heq.2⟩]

theorem routesTo_iff :
    RoutesTo metricsText request answer ↔ answer = routeHttpRequest metricsText request := by
  refine ⟨RoutesTo.eq_route, ?_⟩
  rintro rfl
  exact routeHttpRequest_routesTo metricsText request

theorem badRequest_plain : badRequest.Plain :=
  ⟨by decide, by decide, by decide, ⟨by decide, by decide⟩, by decide⟩

theorem notFound_plain : notFound.Plain :=
  ⟨by decide, by decide, by decide, ⟨by decide, by decide⟩, by decide⟩

theorem internalError_plain : internalError.Plain :=
  ⟨by decide, by decide, by decide, ⟨by decide, by decide⟩, by decide⟩

theorem infoPage_plain : infoPage.Plain :=
  ⟨by decide, by decide, by decide, ⟨by decide, by decide⟩, by decide +kernel⟩

/-- A text of metrics that cannot be taken for the rest of a header: up to its NUL
it has no carriage return, and it does not begin with a line feed. -/
structure PlainText (metricsText : List UInt8) : Prop where
  stray : Stray (cString metricsText)
  lt : strlen metricsText < 2 ^ 64

theorem metricsPage_plain (h : PlainText metricsText) : (metricsPage metricsText).Plain := by
  have htype : cr ∉ (metricsPage []).contentType ∧
      (metricsPage []).statusLine.length + (metricsPage []).contentType.length ≤ 100 := by decide
  exact ⟨infoPage_plain.statusLine, htype.1, htype.2, h.stray, h.lt⟩

theorem routeHttpRequest_plain (h : ∀ text ∈ metricsText, PlainText text) (request : List UInt8) :
    (routeHttpRequest metricsText request).Plain := by
  unfold routeHttpRequest
  split
  · exact badRequest_plain
  · split_ifs
    · cases metricsText with
      | none => exact internalError_plain
      | some text => exact metricsPage_plain (h text rfl)
    · exact infoPage_plain
    · exact notFound_plain

theorem readResponse_handle (h : ∀ text ∈ metricsText, PlainText text) (hreceived : received ≠ [])
    (hanswer : RoutesTo metricsText (cString (received.take (maxRequestSize - 1))) answer)
    (sends : SendResults) (response : Response) :
    readResponse (handleHttpRequest metricsText (some received) sends) = some response ↔
      sends.TakeAll answer ∧ response = answer.response := by
  obtain ⟨b, front, rfl⟩ := List.exists_cons_of_ne_nil hreceived
  have hplain := routeHttpRequest_plain h (cString ((b :: front).take (maxRequestSize - 1)))
  rw [← hanswer.eq_route] at hplain
  rw [← hplain.readResponse_sent, hanswer.eq_route]
  rfl

/-- A client that has sent something reads a response exactly if both calls of `send`
take all they are given, and it is the one that its request asks for. -/
theorem metricsServer_answers (h : ∀ text ∈ metricsText, PlainText text)
    (hreceived : received ≠ []) (sends : SendResults) (response : Response) :
    readResponse (handleHttpRequest metricsText (some received) sends) = some response ↔
      ∃ answer, RoutesTo metricsText (cString (received.take (maxRequestSize - 1))) answer ∧
        sends.TakeAll answer ∧ response = answer.response := by
  rw [readResponse_handle h hreceived (routeHttpRequest_routesTo _ _)]
  simp only [routesTo_iff, exists_eq_left]

def upMetrics : List UInt8 := chars "roole_up 1\n"

theorem upMetrics_plain : ∀ text ∈ some upMetrics, PlainText text := by
  rintro text htext
  obtain rfl := Option.mem_some.mp htext
  exact ⟨⟨by decide, by decide⟩, by decide⟩

theorem metricsServer_answers_metrics :
    readResponse (handleHttpRequest (some upMetrics) (some (chars "GET /metrics HTTP/1.1\r\n\r\n"))
        ⟨some 500, some 500⟩) = some (metricsPage upMetrics).response ↔
      ∃ answer, RoutesTo (some upMetrics)
          (cString ((chars "GET /metrics HTTP/1.1\r\n\r\n").take 4095)) answer ∧
        (⟨some 500, some 500⟩ : SendResults).TakeAll answer ∧
        (metricsPage upMetrics).response = answer.response :=
  metricsServer_answers upMetrics_plain (by decide) _ _

end Roole
