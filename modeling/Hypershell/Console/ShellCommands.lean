import Hypershell.Console.Text
import Hypershell.Foundation.Shell

/-!
# Commands to copy

The views show commands that the user pastes into a shell.  Names, issuers, endpoints and
subjects that others have chosen stand in them.

## Main definitions

* `shellArgument` — a value as one word
* `buildGatewayAddCommand`, `buildWorkspaceMembershipCommand`,
  `buildOpenShellServiceAccountScript`, `buildClientCredentialsScript` — the commands
* `argument` — the word that a value should be

## Main results

* `reads_shellArgument` — a value becomes part of one word, as it is
* `commands_tokens` — the tokens of every command are fixed, but for one word a value
-/

namespace Hypershell.Console

open Foundation Foundation.Shell Texts

/-- `OPENSHELL_OIDC_CLIENT_SECRET`, the variable that holds the secret. -/
def secretEnvironmentVariable : String := "OPENSHELL_OIDC_CLIENT_SECRET"

/-- The characters of `safeShellArgument`. -/
def isSafeShellCharacter (c : Char) : Bool :=
  c.isAlphanum || decide (c ∈ ['_', '.', '/', ':', '@', '%', '+', '=', ',', '-'])

/-- `safeShellArgument.test`. -/
def safeShellArgument (value : String) : Bool :=
  decide (value ≠ "") && value.toList.all isSafeShellCharacter

/-- **A value as an argument**: as it is, or between apostrophes. -/
def shellArgument (value : String) : String :=
  if safeShellArgument value then value
  else "'" ++ replaceAll value apostrophe "'\"'\"'" ++ "'"

/-- What the commands say of a Gateway. -/
structure GatewayConnection where
  name : String
  phase : Option String
  endpoint : Option String
  oidcIssuer : Option String
  oidcClientId : Option String
  oidcAudience : Option String
  deriving DecidableEq, Repr

/-- What the commands say of a service account. -/
structure OpenShellGatewayServiceAccountConnection where
  audience : String
  clientId : String
  gatewayEndpoint : Option String
  gatewayName : String
  issuer : String
  tokenEndpoint : String
  deriving DecidableEq, Repr

section Commands

variable [Locale]

/-- `isGatewayReadyToConnect`. -/
def isGatewayReadyToConnect (gateway : GatewayConnection) : Bool :=
  (gateway.phase.any fun phase => decide (Locale.lower (trim phase) = "running")) &&
    gateway.endpoint.any fun endpoint => decide (endpoint ≠ "")

/-- A text that is there and not empty. -/
def truthy (value : Option String) : Option String := value.filter fun text => decide (text ≠ "")

/-- The options for the identity provider, where the Gateway has all of them. -/
def oidcOptions (gateway : GatewayConnection) : List String :=
  match truthy gateway.oidcIssuer, truthy gateway.oidcClientId, truthy gateway.oidcAudience with
  | some issuer, some clientId, some audience =>
    ["--oidc-issuer " ++ shellArgument issuer, "--oidc-client-id " ++ shellArgument clientId,
      "--oidc-audience " ++ shellArgument audience]
  | _, _, _ => []

/-- **The command that adds a Gateway.** -/
def buildGatewayAddCommand (gateway : GatewayConnection) : Option String :=
  if isGatewayReadyToConnect gateway = false then none
  else
    match truthy gateway.endpoint with
    | none => none
    | some endpoint =>
      some (join " \\\n  " (["openshell gateway add", "--name " ++ shellArgument gateway.name] ++
        oidcOptions gateway ++ [shellArgument endpoint]))

end Commands

/-- `hasRequiredConnectionValues`. -/
def hasRequiredConnectionValues (connection : OpenShellGatewayServiceAccountConnection) : Bool :=
  [some connection.audience, some connection.clientId, connection.gatewayEndpoint,
    some connection.gatewayName, some connection.issuer, some connection.tokenEndpoint].all
    fun value => value.any fun text => decide (trim text ≠ "")

/-- The lines that ask for the secret. -/
def secretPrompt : List String :=
  ["if [ -z \"$\x7b" ++ secretEnvironmentVariable ++ ":-\x7d\" ]; then",
    "  read -rsp 'OpenShell OIDC client secret: ' " ++ secretEnvironmentVariable,
    "  printf '\\n'",
    "  export " ++ secretEnvironmentVariable,
    "fi"]

/-- The name of the Gateway for a service account. -/
def serviceAccountGatewayAlias (gatewayName serviceAccountName : String) : String :=
  gatewayName ++ "-" ++ serviceAccountName

/-- **The command that makes a subject a member of a workspace.** -/
def buildWorkspaceMembershipCommand (subject : String) : Option String :=
  if trim subject = "" then none
  else
    some (join "\n"
      ["WORKSPACE_NAME='replace-with-workspace-name'",
        "",
        "openshell workspace member add \\",
        "  --workspace \"$WORKSPACE_NAME\" \\",
        "  --subject " ++ shellArgument subject ++ " \\",
        "  --role user"])

/-- **The script that signs a service account in.** -/
def buildOpenShellServiceAccountScript (serviceAccountName : String)
    (connection : OpenShellGatewayServiceAccountConnection) : Option String :=
  if hasRequiredConnectionValues connection = false ∨ trim serviceAccountName = "" then none
  else
    let gatewayAlias := serviceAccountGatewayAlias connection.gatewayName serviceAccountName
    some (join "\n" (secretPrompt ++
      ["",
        join " \\\n  "
          ["openshell gateway add",
            "--name " ++ shellArgument gatewayAlias,
            "--oidc-issuer " ++ shellArgument connection.issuer,
            "--oidc-client-id " ++ shellArgument connection.clientId,
            "--oidc-audience " ++ shellArgument connection.audience,
            shellArgument (connection.gatewayEndpoint.getD "")],
        "",
        "openshell -g " ++ shellArgument gatewayAlias ++ " whoami --output json"]))

/-- **The script that gets an access token.** -/
def buildClientCredentialsScript (connection : OpenShellGatewayServiceAccountConnection) :
    Option String :=
  if hasRequiredConnectionValues connection = false then none
  else
    some (join "\n" (secretPrompt ++
      ["",
        "ACCESS_TOKEN=$(printf '%s' \"$OPENSHELL_OIDC_CLIENT_SECRET\" | \\",
        "  curl --fail --silent --show-error --request POST " ++
          shellArgument connection.tokenEndpoint ++ " \\",
        "    --header 'Content-Type: application/x-www-form-urlencoded' \\",
        "    --data-urlencode 'grant_type=client_credentials' \\",
        "    --data-urlencode " ++ shellArgument ("client_id=" ++ connection.clientId) ++ " \\",
        "    --data-urlencode client_secret@- | \\",
        "  python3 -c " ++
          shellArgument "import json,sys; print(json.load(sys.stdin)[\"access_token\"])" ++ ")"]))

/-! ### One value -/

/-- The word that a value is: quoted, unless it is safe. -/
def argumentPieces (value : String) : List Piece := chars (!safeShellArgument value) value.toList

/-- **A value as one word.** -/
def argument (value : String) : Token := .word (argumentPieces value)

/-- The characters that have a meaning to the shell. -/
def meaningful : List Char :=
  [backslash, apostrophe, quotation, '$', backquote, newline, '(', ')', '#', ' ',
    Char.ofNat 0x09, '&', '|', ';', '<', '>', '~', '*', '?', '[', ']', '{', '}', '!', '^']

theorem isOrdinary_of {c : Char} (meaningless : c ∉ meaningful) :
    isOrdinary c = true ∧ isSpecial c = false := by
  simp only [meaningful, List.mem_cons, List.not_mem_nil, or_false, not_or] at meaningless
  simp [isOrdinary, isBlank, isOperator, isSpecial, meaningless]

/-- None of them is safe. -/
theorem safe_ordinary {c : Char} (safe : isSafeShellCharacter c = true) : c ∉ meaningful := by
  have none' : ∀ d ∈ meaningful, isSafeShellCharacter d = false := by decide
  intro inside
  rw [none' c inside] at safe
  exact Bool.false_ne_true safe

/-- **Nothing in the word of a value is expanded.** -/
theorem literal_argument (value : String) : (argument value).literal = some value.toList := by
  unfold argument argumentPieces
  cases safe : safeShellArgument value with
  | false => exact literal_quoted _
  | true =>
    refine literal_bare fun c inside => (isOrdinary_of (safe_ordinary ?_)).2
    simp only [safeShellArgument, Bool.and_eq_true, List.all_eq_true] at safe
    exact safe.2 c inside

/-- What stands for a character between apostrophes. -/
def singleQuoted (c : Char) : List Char :=
  if c = apostrophe then [apostrophe, quotation, apostrophe, quotation, apostrophe] else [c]

/-- Between apostrophes, an apostrophe is left for one between quotation marks. -/
theorem run_singleQuoted (k : Context) (before : List Piece) (text : List Char) :
    run ⟨.single, k.push before⟩ (text.flatMap singleQuoted) =
      ⟨.single, k.push (before ++ chars true text)⟩ := by
  induction text generalizing before with
  | nil => simp [run, chars]
  | cons c rest ih =>
    have first : run ⟨.single, k.push before⟩ (singleQuoted c) =
        ⟨.single, k.push (before ++ [.char c true])⟩ := by
      by_cases same : c = apostrophe
      · rw [same, singleQuoted, if_pos rfl]
        have stands : run ⟨.single, k.push before⟩
            [apostrophe, quotation, apostrophe, quotation, apostrophe] =
            ⟨.single, (((k.push before).push []).push [.char apostrophe true]).push []⟩ := rfl
        simp [stands]
      · rw [singleQuoted, if_neg same, run_single _ _ (by simpa using Ne.symm same)]
        rfl
    rw [List.flatMap_cons, run_append, first, ih]
    simp [chars]

/-- **A value becomes part of one word**, as it is. -/
theorem reads_shellArgument (value : String) :
    Reads (shellArgument value).toList fun k => k.push (argumentPieces value) := by
  unfold argumentPieces shellArgument
  cases safe : safeShellArgument value with
  | false =>
    have text : ("'" ++ replaceAll value apostrophe "'\"'\"'" ++ "'").toList =
        apostrophe :: (value.toList.flatMap singleQuoted ++ [apostrophe]) := by
      simp only [replaceAll, String.toList_append, String.toList_ofList]
      rfl
    intro k
    have begins : State.step ⟨.plain, k⟩ apostrophe = ⟨.single, k.push []⟩ := rfl
    rw [if_neg Bool.false_ne_true, text, run_cons, begins, run_append, run_singleQuoted]
    rfl
  | true =>
    simp only [safeShellArgument, Bool.and_eq_true, List.all_eq_true, decide_eq_true_eq] at safe
    refine reads_ordinary ?_ fun c inside => (isOrdinary_of (safe_ordinary (safe.2 c inside))).1
    intro empty
    exact safe.1 (String.toList_eq_nil_iff.mp empty)

/-! ### The commands -/

/-- A word of the command as it is written there. -/
def bare (text : String) : Token := .word (chars false text.toList)

/-- A word between apostrophes. -/
def quoted (text : String) : Token := .word (chars true text.toList)

/-- Words that can be written as they are. -/
def Plain (texts : List String) : Prop :=
  texts ≠ [] ∧ ∀ text ∈ texts, text.toList ≠ [] ∧ ∀ c ∈ text.toList, isOrdinary c = true

instance (texts : List String) : Decidable (Plain texts) :=
  inferInstanceAs (Decidable (_ ∧ ∀ text ∈ texts, _))

theorem readsAs_bare {text : String} (plain : Plain [text]) : ReadsAs text.toList [bare text] := by
  obtain ⟨some', ordinary⟩ := plain.2 text List.mem_cons_self
  exact .word (reads_ordinary some' ordinary)

/-- Words with blanks between them. -/
theorem readsAs_words {line : String} (texts : List String) (plain : Plain texts)
    (same : line = join " " texts) : ReadsAs line.toList (texts.map bare) := by
  subst same
  induction texts with
  | nil => exact absurd rfl plain.1
  | cons text rest ih =>
    have first : ReadsAs text.toList [bare text] :=
      readsAs_bare ⟨List.cons_ne_nil _ _, by simpa using plain.2 text List.mem_cons_self⟩
    cases rest with
    | nil => exact first
    | cons next rest =>
      have others := ih ⟨List.cons_ne_nil _ _, fun other inside =>
        plain.2 other (List.mem_cons_of_mem _ inside)⟩
      simpa [join] using first.blank others

/-- **A value as an argument.** -/
theorem readsAs_argument (value : String) : ReadsAs (shellArgument value).toList [argument value] :=
  .word (reads_shellArgument value)

/-- An option with a value. -/
theorem readsAs_option (written option value : String) (plain : Plain [option])
    (same : written = option ++ " ") :
    ReadsAs (written ++ shellArgument value).toList [bare option, argument value] := by
  subst same
  simpa using (readsAs_bare plain).blank (readsAs_argument value)

section

variable [Locale]

/-- The options for the identity provider, where the Gateway has all of them. -/
def oidcTokens (gateway : GatewayConnection) : List Token :=
  match truthy gateway.oidcIssuer, truthy gateway.oidcClientId, truthy gateway.oidcAudience with
  | some issuer, some clientId, some audience =>
    [bare "--oidc-issuer", argument issuer, bare "--oidc-client-id", argument clientId,
      bare "--oidc-audience", argument audience]
  | _, _, _ => []

/-- A Gateway is added by its name, its identity provider and its address. -/
def gatewayAddTokens (gateway : GatewayConnection) (endpoint : String) : List Token :=
  [bare "openshell", bare "gateway", bare "add", bare "--name", argument gateway.name] ++
    oidcTokens gateway ++ [argument endpoint]

theorem gatewayAdd_readsAs {gateway : GatewayConnection} {script : String}
    (built : buildGatewayAddCommand gateway = some script) :
    ∃ endpoint, truthy gateway.endpoint = some endpoint ∧
      ReadsAs script.toList (gatewayAddTokens gateway endpoint) := by
  unfold buildGatewayAddCommand at built
  split at built
  · exact absurd built nofun
  · cases published : truthy gateway.endpoint with
    | none => simp [published] at built
    | some endpoint =>
      simp only [published, Option.some.injEq] at built
      subst built
      refine ⟨endpoint, rfl, ?_⟩
      have name := readsAs_option "--name " "--name" gateway.name (by decide) rfl
      have added := readsAs_words ["openshell", "gateway", "add"] (by decide) rfl
      have address := readsAs_argument endpoint
      unfold gatewayAddTokens oidcTokens oidcOptions
      split
      · rename_i issuer clientId audience _ _ _
        have issuer' := readsAs_option "--oidc-issuer " "--oidc-issuer" issuer (by decide) rfl
        have clientId' :=
          readsAs_option "--oidc-client-id " "--oidc-client-id" clientId (by decide) rfl
        have audience' :=
          readsAs_option "--oidc-audience " "--oidc-audience" audience (by decide) rfl
        simpa [-String.reduceAppend, join, backslash, newline] using added.continued (name.continued
          (issuer'.continued (clientId'.continued (audience'.continued address))))
      · simpa [-String.reduceAppend, join, backslash, newline] using added.continued (name.continued address)

end

/-- The value of the parameter, in quotation marks. -/
def expansion (expression : String) : Token := .word [.parameter expression.toList true]

/-- The end of a command line. -/
def lineEnd : Token := .operator [newline]

/-- A name is bound, and a subject made a member of the workspace of that name. -/
def membershipTokens (subject : String) : List Token :=
  [.word (chars false "WORKSPACE_NAME=".toList ++ chars true "replace-with-workspace-name".toList),
    lineEnd, lineEnd,
    bare "openshell", bare "workspace", bare "member", bare "add",
    bare "--workspace", expansion "WORKSPACE_NAME", bare "--subject", argument subject,
    bare "--role", bare "user"]

theorem workspaceMembership_readsAs {subject script : String}
    (built : buildWorkspaceMembershipCommand subject = some script) :
    ReadsAs script.toList (membershipTokens subject) := by
  unfold buildWorkspaceMembershipCommand at built
  split at built
  · exact absurd built nofun
  · simp only [Option.some.injEq] at built
    subst built
    have assignment : ReadsAs ("WORKSPACE_NAME=".toList ++
        (apostrophe :: ("replace-with-workspace-name".toList ++ [apostrophe])))
        [.word (chars false "WORKSPACE_NAME=".toList ++
          chars true "replace-with-workspace-name".toList)] :=
      .word ((reads_ordinary (by decide) (by decide)).push (reads_single (by decide)))
    have workspace : ReadsAs ("--workspace".toList ++ ([' '] ++
        (quotation :: '$' :: 'W' :: ("ORKSPACE_NAME".toList ++ [quotation]))))
        [bare "--workspace", expansion "WORKSPACE_NAME"] :=
      (readsAs_bare (by decide)).blank (.word (reads_parameter (by decide) (by decide)))
    have subject' := readsAs_option "--subject " "--subject" subject (by decide) rfl
    have command := (readsAs_words ["openshell", "workspace", "member", "add"] (by decide)
      rfl).continued (workspace.continued (subject'.continued
        (readsAs_words ["--role", "user"] (by decide) rfl)))
    have all := assignment.line (ReadsAs.nil.line command)
    simpa [-String.reduceAppend, join, membershipTokens, lineEnd, apostrophe, quotation, backslash, newline] using all

/-- The lines that ask for the secret, unless the variable has it. -/
def promptTokens : List Token :=
  [bare "if", bare "[", bare "-z", expansion "OPENSHELL_OIDC_CLIENT_SECRET:-", bare "]",
    .operator [';'], bare "then", lineEnd,
    bare "read", bare "-rsp", quoted "OpenShell OIDC client secret: ",
    bare "OPENSHELL_OIDC_CLIENT_SECRET", lineEnd,
    bare "printf", quoted "\\n", lineEnd,
    bare "export", bare "OPENSHELL_OIDC_CLIENT_SECRET", lineEnd,
    bare "fi"]

theorem readsAs_quoted (text : String) (unquoted : apostrophe ∉ text.toList) :
    ReadsAs (apostrophe :: (text.toList ++ [apostrophe])) [quoted text] :=
  .word (reads_single unquoted)

/-- A variable in quotation marks. -/
theorem readsAs_expansion (name : List Char) (first : Char) (rest : List Char)
    (spelled : name = first :: rest) (start : isNameStart first = true)
    (valid : ∀ c ∈ rest, isNameChar c = true) :
    ReadsAs (quotation :: '$' :: first :: (rest ++ [quotation])) [.word [.parameter name true]] :=
  .word (spelled ▸ reads_parameter start valid)

theorem secretPrompt_readsAs : ReadsAs (join "\n" secretPrompt).toList promptTokens := by
  have unset : ReadsAs (quotation :: '$' :: '{' :: ("OPENSHELL_OIDC_CLIENT_SECRET:-".toList ++
      ['}', quotation])) [expansion "OPENSHELL_OIDC_CLIENT_SECRET:-"] :=
    .word (reads_brace (by decide))
  have condition := (readsAs_words ["if", "[", "-z"] (by decide) rfl).blank
    (unset.blank (readsAs_words ["]"] (by decide) rfl))
  have read := (readsAs_words ["read", "-rsp"] (by decide) rfl).blank
    ((readsAs_quoted "OpenShell OIDC client secret: " (by decide)).blank
      (readsAs_words [secretEnvironmentVariable] (by decide) rfl))
  have print := (readsAs_words ["printf"] (by decide) rfl).blank
    (readsAs_quoted "\\n" (by decide))
  have export' := readsAs_words ["export", secretEnvironmentVariable] (by decide) rfl
  have closing := readsAs_words ["fi"] (by decide) rfl
  have all := condition.operator (c := ';') (by decide)
    ((readsAs_words ["then"] (by decide) rfl).line (read.indented.line
      (print.indented.line (export'.indented.line closing))))
  simpa [-String.reduceAppend, join, secretPrompt, promptTokens, lineEnd, secretEnvironmentVariable, apostrophe,
    quotation, backslash, newline] using all

/-- Signing in: the Gateway is added under its alias, and asked who the account is. -/
def signInTokens (gatewayAlias : String)
    (connection : OpenShellGatewayServiceAccountConnection) : List Token :=
  promptTokens ++
    [lineEnd, lineEnd,
      bare "openshell", bare "gateway", bare "add", bare "--name", argument gatewayAlias,
      bare "--oidc-issuer", argument connection.issuer,
      bare "--oidc-client-id", argument connection.clientId,
      bare "--oidc-audience", argument connection.audience,
      argument (connection.gatewayEndpoint.getD ""), lineEnd, lineEnd,
      bare "openshell", bare "-g", argument gatewayAlias, bare "whoami", bare "--output",
      bare "json"]

theorem signIn_readsAs {serviceAccountName script : String}
    {connection : OpenShellGatewayServiceAccountConnection}
    (built : buildOpenShellServiceAccountScript serviceAccountName connection = some script) :
    ReadsAs script.toList
      (signInTokens (serviceAccountGatewayAlias connection.gatewayName serviceAccountName)
        connection) := by
  unfold buildOpenShellServiceAccountScript at built
  split at built
  · exact absurd built nofun
  · simp only [Option.some.injEq] at built
    subst built
    generalize serviceAccountGatewayAlias connection.gatewayName serviceAccountName = gatewayAlias
    have added := readsAs_words ["openshell", "gateway", "add"] (by decide) rfl
    have name := readsAs_option "--name " "--name" gatewayAlias (by decide) rfl
    have issuer := readsAs_option "--oidc-issuer " "--oidc-issuer" connection.issuer (by decide) rfl
    have clientId :=
      readsAs_option "--oidc-client-id " "--oidc-client-id" connection.clientId (by decide) rfl
    have audience :=
      readsAs_option "--oidc-audience " "--oidc-audience" connection.audience (by decide) rfl
    have address := readsAs_argument (connection.gatewayEndpoint.getD "")
    have command := added.continued (name.continued (issuer.continued (clientId.continued
      (audience.continued address))))
    have asked := (readsAs_words ["openshell", "-g"] (by decide) rfl).blank
      ((readsAs_argument gatewayAlias).blank
        (readsAs_words ["whoami", "--output", "json"] (by decide) rfl))
    have all := secretPrompt_readsAs.line (ReadsAs.nil.line (command.line
      (ReadsAs.nil.line asked)))
    rw [join_append "\n" (by simp [secretPrompt]) (List.cons_ne_nil _ _)]
    simpa [-String.reduceAppend, join, signInTokens, lineEnd, backslash, newline] using all

/-- Getting a token: the secret goes to `curl` on its input, and the answer to `python3`. -/
def credentialsTokens (connection : OpenShellGatewayServiceAccountConnection) : List Token :=
  promptTokens ++
    [lineEnd, lineEnd,
      .word (chars false "ACCESS_TOKEN=".toList ++
        [.command
          [bare "printf", quoted "%s", expansion "OPENSHELL_OIDC_CLIENT_SECRET", .operator ['|'],
            bare "curl", bare "--fail", bare "--silent", bare "--show-error", bare "--request",
            bare "POST", argument connection.tokenEndpoint,
            bare "--header", quoted "Content-Type: application/x-www-form-urlencoded",
            bare "--data-urlencode", quoted "grant_type=client_credentials",
            bare "--data-urlencode", argument ("client_id=" ++ connection.clientId),
            bare "--data-urlencode", bare "client_secret@-", .operator ['|'],
            bare "python3", bare "-c",
            argument "import json,sys; print(json.load(sys.stdin)[\"access_token\"])"]
          false])]

-- the text is one long list of characters to the simplifier
set_option maxRecDepth 2000 in
theorem credentials_readsAs {script : String}
    {connection : OpenShellGatewayServiceAccountConnection}
    (built : buildClientCredentialsScript connection = some script) :
    ReadsAs script.toList (credentialsTokens connection) := by
  unfold buildClientCredentialsScript at built
  split at built
  · exact absurd built nofun
  · simp only [Option.some.injEq] at built
    subst built
    have print := (readsAs_words ["printf"] (by decide) rfl).blank
      ((readsAs_quoted "%s" (by decide)).blank (readsAs_expansion
        "OPENSHELL_OIDC_CLIENT_SECRET".toList 'O' "PENSHELL_OIDC_CLIENT_SECRET".toList
        (by decide) (by decide) (by decide)))
    have endpoint := (readsAs_words
      ["curl", "--fail", "--silent", "--show-error", "--request", "POST"] (by decide) rfl).blank
      (readsAs_argument connection.tokenEndpoint)
    have header := (readsAs_words ["--header"] (by decide) rfl).blank
      (readsAs_quoted "Content-Type: application/x-www-form-urlencoded" (by decide))
    have grant := (readsAs_words ["--data-urlencode"] (by decide) rfl).blank
      (readsAs_quoted "grant_type=client_credentials" (by decide))
    have client := readsAs_option "--data-urlencode " "--data-urlencode"
      ("client_id=" ++ connection.clientId) (by decide) rfl
    have sent := readsAs_words ["--data-urlencode", "client_secret@-"] (by decide) rfl
    have parse := (readsAs_words ["python3", "-c"] (by decide) rfl).blank (readsAs_argument
      "import json,sys; print(json.load(sys.stdin)[\"access_token\"])")
    have piped := ((sent.blank .nil).operator (c := '|') (by decide) parse.broken).indented
    have request := endpoint.continued (header.continued (grant.continued
      (client.continued piped).indented).indented).indented
    have pipeline := (print.blank .nil).operator (c := '|') (by decide) request.broken
    have name : Reads "ACCESS_TOKEN=".toList fun k => k.push (chars false "ACCESS_TOKEN=".toList) :=
      reads_ordinary (by decide) (by decide)
    have assignment := ReadsAs.word (name.push (pipeline.substitution (by simp [join])))
    have all := secretPrompt_readsAs.line (ReadsAs.nil.line assignment)
    rw [join_append "\n" (by simp [secretPrompt]) (List.cons_ne_nil _ _)]
    simpa [-String.reduceAppend, join, credentialsTokens, lineEnd, expansion, apostrophe, quotation,
      backslash, newline] using all

/-- **What a shell reads from the commands.**  A value as an argument is one word, in which
nothing is expanded and which is the value.  Every command is read as its own tokens, and each
value in it is such a word: no value ends a word, a command or a command substitution, or begins
one. -/
theorem commands_tokens [Locale] :
    (∀ value, tokenize (shellArgument value).toList = some [argument value] ∧
      (argument value).literal = some value.toList) ∧
    (∀ gateway script, buildGatewayAddCommand gateway = some script →
      ∃ endpoint, truthy gateway.endpoint = some endpoint ∧
        tokenize script.toList = some (gatewayAddTokens gateway endpoint)) ∧
    (∀ subject script, buildWorkspaceMembershipCommand subject = some script →
      tokenize script.toList = some (membershipTokens subject)) ∧
    (∀ serviceAccountName connection script,
      buildOpenShellServiceAccountScript serviceAccountName connection = some script →
      tokenize script.toList = some (signInTokens
        (serviceAccountGatewayAlias connection.gatewayName serviceAccountName) connection)) ∧
    ∀ connection script, buildClientCredentialsScript connection = some script →
      tokenize script.toList = some (credentialsTokens connection) := by
  refine ⟨fun value => ⟨(readsAs_argument value).tokenize, literal_argument value⟩,
    fun gateway script built => ?_, fun subject script built =>
    (workspaceMembership_readsAs built).tokenize, fun _ _ _ built =>
    (signIn_readsAs built).tokenize, fun _ _ built => (credentials_readsAs built).tokenize⟩
  obtain ⟨endpoint, published, reads⟩ := gatewayAdd_readsAs built
  exact ⟨endpoint, published, reads.tokenize⟩

end Hypershell.Console
