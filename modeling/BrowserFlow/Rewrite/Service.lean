import BrowserFlow.Rewrite.Prompt

/-!
Rewrite services: how each is asked and how its reply is judged.
-/

namespace BrowserFlow.Rewrite

open Json (Reader Value)

inductive Provider where
  | none
  | openai
  | ollama
deriving DecidableEq, Repr, Inhabited

namespace Provider

def tag : Provider → String
  | none => "none"
  | openai => "openai"
  | ollama => "ollama"

def all : List Provider := [none, openai, ollama]

def ofTag? (t : String) : Option Provider := all.find? (·.tag = t)

def reader (source : Json.Source) : Reader := Reader.variant source (all.map tag)

def ofJson (v : Value) : Provider := (ofTag? v.getString).getD none

end Provider

structure Request where
  endpoint : String
  bearer : Option String
  body : String
deriving DecidableEq, Repr

structure Reply where
  status : Nat
  body : String
deriving DecidableEq, Repr

/-- Carries a request to a service; `none` when that fails. -/
abbrev Transport := Request → Option Reply

inductive Error where
  | transport
  | status (status : Nat) (body : String)
  | missingContent
deriving DecidableEq, Repr

def Error.message : Error → String
  | transport => "HTTP error"
  | status code body => "rewrite request failed: " ++ toString code ++ " " ++ body
  | missingContent => "rewrite response missing content"

/-- A service that declines yields no script. -/
abbrev Outcome := Except Error (Option String)

structure Config where
  provider : Provider
  endpoint : Option String
  model : Option String
  timeoutSecs : Nat
deriving DecidableEq, Repr, Inhabited

namespace Config

def standard : Config := ⟨.none, none, none, 20⟩

def toJson (c : Config) : Value :=
  .object
    [("provider", .string c.provider.tag), ("endpoint", .optional c.endpoint),
      ("model", .optional c.model), ("timeout_secs", .nat c.timeoutSecs)]

end Config

/-- The temperature of a chat request, in tenths. -/
def temperature : Value := .number (.real (.ofFloat 0.2))

def systemMessage : String :=
  "You are a senior QA engineer who writes stable Playwright scripts."

def chatMessage (role content : String) : Value :=
  .object [("role", .string role), ("content", .string content)]

def chatRequest (config : Config) (key prompt : String) : Request :=
  { endpoint := config.endpoint.getD "https://api.openai.com/v1/chat/completions"
    bearer := some key
    body :=
      (Value.object
        [("model", .string (config.model.getD "gpt-4o-mini")), ("temperature", temperature),
          ("messages", .array [chatMessage "system" systemMessage, chatMessage "user" prompt])])
        |>.compact }

def generateRequest (config : Config) (prompt : String) : Request :=
  { endpoint := config.endpoint.getD "http://localhost:11434/api/generate"
    bearer := none
    body :=
      (Value.object
        [("model", .string (config.model.getD "qwen2.5:1.5b")), ("prompt", .string prompt),
          ("stream", .bool false)])
        |>.compact }

def chatReplyReader : Reader :=
  Reader.record .text "struct ChatResponse"
    [Reader.defaulted "choices" (.array [])
      (Reader.list
        (Reader.record .text "struct ChatChoice"
          [Reader.nullable "message"
            (Reader.record .text "struct ChatReply" [Reader.nullable "content" Reader.string])]))]

def generateReplyReader : Reader :=
  Reader.record .text "struct OllamaResponse" [Reader.required "response" Reader.string]

/-- The content of the first choice. -/
def chatContent? (reply : Value) : Option String :=
  (reply.field "choices").getItems.head?.bind fun choice =>
    ((choice.field "message").field "content").getString?

def generateContent? (reply : Value) : Option String := (reply.field "response").getString?

def isSuccess (status : Nat) : Bool := 200 ≤ status && status ≤ 299

/-- Blank content counts as missing; other content is taken out of its fences. -/
def judgeContent (content : Option String) : Outcome :=
  match content.filter (!isBlank ·) with
  | some text => .ok (some (stripFences text))
  | none => .error .missingContent

def judgeReply (reader : Reader) (content? : Value → Option String) (reply : Option Reply) :
    Outcome :=
  match reply with
  | none => .error .transport
  | some reply =>
    if isSuccess reply.status then
      match reader.run reply.body with
      | .ok value => judgeContent (content? value)
      | .error _ => .error .transport
    else .error (.status reply.status reply.body)

/-- The request that is sent for a prompt, if any. Without a key the chat service is not asked. -/
def request? (config : Config) (key : Option String) (prompt : String) : Option Request :=
  match config.provider with
  | .none => none
  | .openai => (key.filter (!·.isEmpty)).map fun key => chatRequest config key prompt
  | .ollama => some (generateRequest config prompt)

def judge (provider : Provider) (reply : Option Reply) : Outcome :=
  match provider with
  | .none => .ok none
  | .openai => judgeReply chatReplyReader chatContent? reply
  | .ollama => judgeReply generateReplyReader generateContent? reply

/-- Asks for a better script. -/
abbrev Rewriter := Flow → String → Outcome

def rewriter (transport : Transport) (config : Config) (key : Option String) : Rewriter :=
  fun flow script =>
    match request? config key (prompt flow script) with
    | none => .ok none
    | some request => judge config.provider (transport request)

end BrowserFlow.Rewrite
