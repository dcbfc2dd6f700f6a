import TypedRpc.Client.Basic
import TypedRpc.Json.Literal

/-!
The text of a client module. It is put together from lines: a fixed heading, the exported definitions and aliases,
the interface of the client, the function that sends requests, and the object with the methods.
-/

namespace TypedRpc

open TypedRpc.Text TypedRpc.TypeScript

namespace Client

/-- The heading: what generated the text, and the envelope of every response. -/
def heading : List String :=
  [
    "// Code generated by tsbridge. DO NOT EDIT.",
    "",
    "export interface ApiError \x7b",
    "  message: string",
    "  statusCode?: number",
    "\x7d",
    "",
    "export type ApiResponse<T> =",
    "  | \x7b data: T; error: null \x7d",
    "  | \x7b data: null; error: ApiError \x7d"
  ]

/-- The line that exports a definition, after an empty one. -/
def definitionLines (definition : Definition) : List String :=
  ["", "export " ++ definition.print]

/-- The lines that export the types of a handler, after an empty one. -/
def aliasLines (entry : Alias) : List String :=
  let response := "Promise<ApiResponse<" ++ entry.stem ++ "Output>>"
  let output := "export type " ++ entry.stem ++ "Output = " ++ entry.output.print
  if entry.takesInput then
    ["",
      "export type " ++ entry.stem ++ "Input = " ++ entry.input.print,
      output,
      "export type " ++ entry.stem ++ "Handler = (params: " ++ entry.stem ++ "Input) => " ++ response]
  else
    ["",
      output,
      "export type " ++ entry.stem ++ "Handler = () => " ++ response]

/-- The lines of a group in the interface. -/
def interfaceLines (group : Group) : List String :=
  ["  " ++ propertyName group.ns ++ ": \x7b"]
    ++ group.methods.map (fun method => "    " ++ propertyName method.name ++ ": " ++ method.stem ++ "Handler")
    ++ ["  \x7d"]

/-- The function that sends a request and unpacks the response. -/
def transport : List String :=
  [
    "type ApiClientConfig = \x7b",
    "  beforeRequest?: (config: RequestInit) => void | Promise<void>",
    "\x7d",
    "",
    "export function createClient(baseUrl: string, config?: ApiClientConfig): ApiClient \x7b",
    "  const doFetch = async <T>(path: string, params?: unknown): Promise<ApiResponse<T>> => \x7b",
    "    const requestInit: RequestInit = \x7b",
    "      method: \"POST\",",
    "      headers: \x7b \"Content-Type\": \"application/json\" \x7d,",
    "      body: JSON.stringify(params ?? \x7b\x7d),",
    "    \x7d",
    "    try \x7b",
    "      if (config?.beforeRequest) \x7b",
    "        await config.beforeRequest(requestInit)",
    "      \x7d",
    "      const response = await fetch(`$\x7bbaseUrl\x7d/$\x7bpath\x7d`, requestInit)",
    "      const payload = await response.json().catch(() => null)",
    "      if (!response.ok) \x7b",
    "        const message =",
    "          payload !== null && typeof payload.message === \"string\"",
    "            ? payload.message",
    "            : response.statusText",
    "        return \x7b data: null, error: \x7b message, statusCode: response.status \x7d \x7d",
    "      \x7d",
    "      return \x7b data: payload as T, error: null \x7d",
    "    \x7d catch (error) \x7b",
    "      return \x7b",
    "        data: null,",
    "        error: \x7b",
    "          message: error instanceof Error ? error.message : \"Unknown error occurred\",",
    "        \x7d,",
    "      \x7d",
    "    \x7d",
    "  \x7d",
    ""
  ]

/-- The line of a method. The key stands as a JSON string, which is a string of the client language too. -/
def methodLine (method : Method) : String :=
  "      " ++ propertyName method.name
    ++ (if method.takesInput then ": (params) => doFetch(" ++ Json.stringLiteral method.key ++ ", params),"
      else ": () => doFetch(" ++ Json.stringLiteral method.key ++ "),")

/-- The lines of a group in the object of the client. -/
def objectLines (group : Group) : List String :=
  ["    " ++ propertyName group.ns ++ ": \x7b"] ++ group.methods.map methodLine ++ ["    \x7d,"]

end Client

/-- The lines of a client module. -/
def Client.lines (client : Client) : List String :=
  Client.heading
    ++ client.definitions.flatMap Client.definitionLines
    ++ client.aliases.flatMap Client.aliasLines
    ++ ["", "export interface ApiClient \x7b"]
    ++ client.groups.flatMap Client.interfaceLines
    ++ ["\x7d", ""]
    ++ Client.transport
    ++ ["  return \x7b"]
    ++ client.groups.flatMap Client.objectLines
    ++ ["  \x7d", "\x7d"]

/-- The text of a client module. -/
def Client.print (client : Client) : String :=
  join "\n" client.lines

end TypedRpc
