import Stepwise.Call.Basic
import Stepwise.Text.Blank
import Stepwise.Text.Lines

/-!
The texts that go to the completion provider. The prompt of a run carries the request, where it is
made, the catalogue of capabilities and the form that a plan must have.
-/

namespace Stepwise.Prompt

/-- Lines with line feeds between them. -/
def paragraph (lines : List String) : String := Text.joinText "\n" lines

/-- Sets the behaviour of the provider in every run. -/
def system : String :=
  paragraph
    ["You are a precise, instruction-following execution assistant with zero extra output.",
    "You only do exactly what is required, and you only output in the given JSON format.",
    "CRITICAL: Your response MUST be a valid JSON array ONLY, with no additional " ++
      "text, explanations, markdown, code fences or any other content.",
    "Your output must be parsable directly as JSON.",
    "",
    "Role & Capabilities:",
    "- You have system-level access to file operations and command execution.",
    "- You can directly call built-in functions, system commands, and Python code.",
    "- You are also a professional text processing assistant: translation, " ++
      "summarization, extraction, data query, polishing.",
    "- You answer questions and process text data accurately."]

/-- Sets the behaviour of the provider for a text task that gives none. -/
def textTask : String :=
  "You are a professional text processing assistant, skilled in translation, " ++
    "summarization, information extraction, data query and content polishing. " ++
    "Strictly follow the requirements to process the content below. Only output " ++
    "the processing result: no explanations, no chat, no extra content."

/-- What the prompt of a run is made from. -/
structure Parts where
  request : String
  catalogue : String
  directory : String
  system : String
  space : String

/-- What is asked, where, and what there is to use. -/
def situation (p : Parts) : List String :=
  ["",
    "User request: \"" ++ p.request ++ "\"",
    "Current working directory: \"" ++ p.directory ++ "\"",
    "Current OS: \"" ++ p.system ++ "\"",
    "",
    "You can ONLY use the built-in functions under the '" ++ p.space ++ "' object:",
    p.catalogue,
    ""]

/-- How a plan is made. -/
def rules (p : Parts) : List String :=
  ["Strict Execution Rules:",
    "1. Always respond in the same language as the user request.",
    "2. Analyze the request and select only the necessary functions, commands, or code.",
    "3. Output a complete, sequential step list that fully finishes the task.",
    "4. For complex tasks (game, app): generate ALL required files with FULL runnable code.",
    "5. For directories: always create the directory first, then use relative " ++
      "paths for files.",
    "6. All file and directory operations use relative paths from the current " ++
      "working directory. Never use absolute paths in built-in function calls.",
    "7. All function calls, commands and code must be valid and executable in order.",
    "8. In Python code:",
    "   - The code runs inside an async function: use 'await' for built-in " ++
      "functions and 'return' the result.",
    "   - Call built-in functions through '" ++ p.space ++ "', e.g. await " ++ p.space ++
      ".read_file_0('file.txt').",
    "   - Do not import anything to reach built-in functions.",
    "   - Code must be properly indented with 4 spaces and follow PEP 8.",
    "9. Always use full function names with their numeric suffix (read_file_0, " ++
      "read_file_1, never read_file).",
    "10. When writing function call arguments, prepend '" ++ Call.marker ++
      "' before EVERY argument.",
    "    Example: " ++ p.space ++ ".create_file_0(" ++ Call.marker ++ "\"file.txt\", " ++
      Call.marker ++ "\"content\")",
    "11. A system variable '" ++ Call.outputsName ++
      "' (a list) stores the return value of each step, in step order.",
    "    In Python code read it directly, e.g. " ++ Call.outputsName ++ "[1].",
    "    In a built-in function call write '" ++ Call.outputsName ++
      "[index]' as the argument and the system replaces it",
    "    with the real value, e.g. " ++ p.space ++ ".request_ai_0(" ++ Call.marker ++ "\"\", " ++
      Call.marker ++ "\"" ++ Call.outputsName ++ "[1]\").",
    ""]

/-- How a plan is written. -/
def format (p : Parts) : List String :=
  ["Step types (MUST be strictly followed):",
    "- type 1: Text answer (direct response, no execution)",
    "- type 2: Built-in function call, e.g. " ++ p.space ++ ".read_file_0(" ++ Call.marker ++
      "\"a.txt\")",
    "- type 3: System command (shell command line)",
    "- type 4: Python code block",
    "- type 5: Follow-up request: content is a new natural-language request that " ++
      "is planned and executed",
    "  after this plan ends; use it only when the next steps depend on results " ++
      "you cannot know yet",
    "",
    "Output Format (ONLY this JSON array, nothing else):",
    "[",
    "  \x7b\"type\": 1, \"content\": \"text\", \"description\": \"Step description\"\x7d,",
    "  \x7b\"type\": 2, \"content\": \"" ++ p.space ++
      ".xxx_0(...)\", \"description\": \"Step description\"\x7d",
    "]",
    "",
    "Final Constraints:",
    "1. If the request is a question or a text task, answer directly with type 1.",
    "2. If the request is a system task, prefer built-in functions over system " ++
      "commands over Python code.",
    "3. Output ONLY the JSON array, parsable by a JSON parser.",
    "4. In JSON strings always use double quotes and escape embedded double " ++
      "quotes with a backslash.",
    ""]

/-- The prompt of a run. -/
def user (p : Parts) : String := Text.trimmed (paragraph (situation p ++ rules p ++ format p))

end Stepwise.Prompt
