import ClientGen.Text.Indent

/-!
# Support code

The part of a generated client that is the same for every service: the imports of each
file, the functions that read and write bodies, and the base class that sends requests.
Members of the base class are held without their indentation.
-/
namespace ClientGen.Support

open ClientGen.Text

/-! ## 1. Imports -/

/-- Imports of the support file. -/
def supportImports : String := unlines
  ["import asyncio",
   "import dataclasses",
   "import json",
   "import logging",
   "import shlex",
   "import urllib.parse",
   "from contextlib import asynccontextmanager",
   "from typing import Any, Dict, List, Optional, Tuple",
   "",
   "from aiohttp import ClientSession, ClientTimeout",
   "from pydantic import TypeAdapter, ValidationError"]

/-- Imports of the models file. -/
def modelImports : String := unlines
  ["from __future__ import annotations",
   "",
   "import datetime",
   "import decimal",
   "import uuid",
   "from enum import Enum",
   "from typing import Annotated, Any, Dict, List, Optional, Union",
   "",
   "from pydantic import (",
   "    BaseModel,",
   "    ConfigDict,",
   "    Field,",
   "    PlainSerializer,",
   "    PlainValidator,",
   "    TypeAdapter,",
   "    ValidationError,",
   ")"]

/-- Imports of the errors file. -/
def errorImports : String := unlines
  ["import datetime",
   "import decimal",
   "import functools",
   "import uuid",
   "from typing import Any, Dict, List, Optional, Union",
   "",
   "from . import common, models"]

/-- Imports of the interfaces file. -/
def interfaceImports : String := unlines
  ["import abc",
   "import datetime",
   "import decimal",
   "import uuid",
   "from typing import Any, Dict, List, Optional, Union",
   "",
   "from . import models"]

/-- Imports of the client file. -/
def clientImports : String := unlines
  ["import datetime",
   "import decimal",
   "import uuid",
   "from typing import Any, Dict, List, Optional, Union",
   "",
   "from simple_singleton import Singleton",
   "",
   "from . import common, errors, interfaces, models",
   "from .common import AiohttpClient"]

/-! ## 2. Bodies, queries and paths -/

/-- Class of an answer: status, body and headers. -/
def answerClass : String := unlines
  ["@dataclasses.dataclass(frozen=True)",
   "class Response:",
   "    \"\"\"Ответ сервера: код, тело и заголовки\"\"\"",
   "",
   "    status: int",
   "    body: str",
   "    headers: Dict[str, str] = dataclasses.field(default_factory=dict)"]

/-- Function that reads a body into a type. -/
def readJson : String := unlines
  ["def parse_json(class_name: str, response: Response, tp: Any) -> Any:",
   "    \"\"\"Разбор тела ответа в тип tp; ошибка разбора - errors.InvalidJson\"\"\"",
   "    from . import errors",
   "",
   "    try:",
   "        return TypeAdapter(tp).validate_json(response.body or \"null\")",
   "    except ValidationError as e:",
   "        raise errors.InvalidJson(",
   "            response.status, f\"Invalid json for \x7bclass_name\x7d: \x7be\x7d\"",
   "        ) from e"]

/-- Function that turns a value into JSON. -/
def writeJson : String := unlines
  ["def to_json(tp: Any, value: Any) -> Any:",
   "    return TypeAdapter(tp).dump_python(value, mode=\"json\", by_alias=True)"]

/-- Function that writes a value into a path or a query. -/
def plainText : String := unlines
  ["def _plain(value: Any) -> str:",
   "    dumped = TypeAdapter(Any).dump_python(value, mode=\"json\")",
   "    if isinstance(dumped, bool):",
   "        return \"true\" if dumped else \"false\"",
   "    return str(dumped)"]

/-- Function that writes the pairs of a query parameter: an absent value has none, a list
one for each item. -/
def queryPairs : String := unlines
  ["def query_pairs(name: str, value: Any) -> List[Tuple[str, str]]:",
   "    \"\"\"Пары строки запроса: None пропускается, список повторяет ключ\"\"\"",
   "    if value is None:",
   "        return []",
   "",
   "    if isinstance(value, (list, tuple)):",
   "        return [pair for item in value for pair in query_pairs(name, item)]",
   "",
   "    return [(name, _plain(value))]"]

/-- Function that writes a segment of a path. -/
def quotePath : String := unlines
  ["def quote_path(value: Any) -> str:",
   "    return urllib.parse.quote(_plain(value), safe=\"\")"]

/-! ## 3. The base client -/

/-- Constructor of the base client. -/
def constructor : String := unlines
  ["def __init__(self):",
   "    self._session: Optional[ClientSession] = None",
   "    self._api_url: Optional[str] = None",
   "    self._base_headers: Dict[str, str] = dict(DEFAULT_HEADERS)",
   "    self._temp_headers: Dict[str, str] = \x7b\x7d",
   "    self._timeout: int = 30",
   "    self._session_dirty = False",
   "    self._session_lock = asyncio.Lock()"]

/-- Headers as sent: those of the client, with temporary ones over them. -/
def headersGetter : String := unlines
  ["@property",
   "def headers(self) -> Dict[str, str]:",
   "    \"\"\"Получение текущих заголовков\"\"\"",
   "    return \x7b**self._base_headers, **self._temp_headers\x7d"]

/-- Replacement of the client's headers. -/
def headersSetter : String := unlines
  ["@headers.setter",
   "def headers(self, value: Dict[str, str]):",
   "    self._base_headers = \x7b**DEFAULT_HEADERS, **(value or \x7b\x7d)\x7d",
   "    self._session_dirty = True"]

/-- Addition of headers. -/
def updateHeaders : String := unlines
  ["def update_headers(self, **headers):",
   "    self._base_headers.update(headers)",
   "    self._session_dirty = True",
   "    return self"]

/-- Headers for the length of a block. -/
def temporaryHeaders : String := unlines
  ["@asynccontextmanager",
   "async def with_headers(self, **temp_headers):",
   "    \"\"\"Контекстный менеджер для временных заголовков\"\"\"",
   "    old_temp = self._temp_headers.copy()",
   "    try:",
   "        self._temp_headers.update(temp_headers)",
   "        self._session_dirty = True",
   "        yield self",
   "    finally:",
   "        self._temp_headers = old_temp",
   "        self._session_dirty = True"]

/-- Header of a bearer token. -/
def setToken : String := unlines
  ["def set_auth_token(self, token: str):",
   "    \"\"\"Установка Bearer токена авторизации\"\"\"",
   "    return self.update_headers(Authorization=f\"Bearer \x7btoken\x7d\")"]

/-- Session, opened anew after a change of headers. -/
def ensureSession : String := unlines
  ["async def _ensure_session(self) -> ClientSession:",
   "    async with self._session_lock:",
   "        if (",
   "            self._session is not None",
   "            and not self._session.closed",
   "            and not self._session_dirty",
   "        ):",
   "            return self._session",
   "",
   "        if self._session and not self._session.closed:",
   "            await self._session.close()",
   "",
   "        self._session = ClientSession(",
   "            timeout=ClientTimeout(total=self._timeout),",
   "            headers=self.headers,",
   "            trust_env=True,",
   "        )",
   "        self._session_dirty = False",
   "",
   "    return self._session"]

/-- Request as a command line, for the log. -/
def commandLine : String := unlines
  ["def _curl(",
   "    self,",
   "    method: str,",
   "    url: str,",
   "    query_parameters: Optional[List[Tuple[str, str]]],",
   "    body: Any,",
   ") -> str:",
   "    if query_parameters:",
   "        url = f\"\x7burl\x7d?\x7burllib.parse.urlencode(query_parameters)\x7d\"",
   "",
   "    parts = [\"curl\", \"-X\", method]",
   "    for name, value in self.headers.items():",
   "        parts.extend([\"-H\", shlex.quote(f\"\x7bname\x7d: \x7bvalue\x7d\")])",
   "    if body is not None:",
   "        parts.extend([\"-d\", shlex.quote(json.dumps(body))])",
   "    parts.append(shlex.quote(url))",
   "",
   "    return \" \".join(parts)"]

/-- Sending of a request: the verb must be supported and the address set. -/
def executeRequest : String := unlines
  ["async def _execute_request(",
   "    self,",
   "    method: str,",
   "    path: str,",
   "    query_parameters: Optional[List[Tuple[str, str]]] = None,",
   "    body: Any = None,",
   ") -> Response:",
   "    if method == \"PATCH\" and not SUPPORTS_PATCH:",
   "        raise NotImplementedError(\"PATCH method is not supported by this client\")",
   "",
   "    if method not in DISPATCH:",
   "        raise ValueError(f\"Unsupported HTTP method \x7bmethod\x7d\")",
   "",
   "    if not self._api_url:",
   "        raise ValueError(\"API URL is empty, call initialize() first\")",
   "",
   "    url = f\"\x7bself._api_url\x7d\x7bpath\x7d\"",
   "    logger.info(self._curl(method, url, query_parameters, body))",
   "",
   "    session = await self._ensure_session()",
   "    request = getattr(session, DISPATCH[method])",
   "",
   "    kwargs: Dict[str, Any] = \x7b\x7d",
   "    if query_parameters:",
   "        kwargs[\"params\"] = query_parameters",
   "    if body is not None:",
   "        kwargs[\"json\"] = body",
   "",
   "    async with request(url, **kwargs) as response:",
   "        logger.debug(f\"Response status: \x7bresponse.status\x7d\")",
   "        return Response(",
   "            status=response.status,",
   "            body=await response.text(),",
   "            headers=dict(response.headers),",
   "        )"]

/-- Settings of the client before first use. -/
def initialization : String := unlines
  ["def initialize(",
   "    self,",
   "    api_url: str = BASE_URL,",
   "    headers: Dict[str, str] = None,",
   "    timeout: int = 30,",
   ") -> \"AiohttpClient\":",
   "    \"\"\"Инициализация клиента с настройками\"\"\"",
   "    if not api_url:",
   "        raise ValueError(\"API URL is required\")",
   "",
   "    self._api_url = str(api_url).rstrip(\"/\")",
   "    if headers:",
   "        self.headers = headers",
   "    self._timeout = int(timeout) if timeout else 30",
   "    self._session_dirty = True",
   "",
   "    return self"]

/-- End of the session. -/
def closing : String := unlines
  ["async def close(self):",
   "    \"\"\"Закрытие клиента и освобождение ресурсов\"\"\"",
   "    async with self._session_lock:",
   "        if self._session and not self._session.closed:",
   "            await self._session.close()",
   "        self._session = None"]

/-- Start of a block that uses the client. -/
def enterContext : String := unlines
  ["async def __aenter__(self):",
   "    return self"]

/-- End of such a block. -/
def leaveContext : String := unlines
  ["async def __aexit__(self, exc_type, exc_val, exc_tb):",
   "    await self.close()"]

/-- Members of the base client, in order. -/
def clientMembers : List String :=
  [constructor, headersGetter, headersSetter, updateHeaders, temporaryHeaders, setToken,
   ensureSession, commandLine, executeRequest, initialization, closing, enterContext,
   leaveContext]

/-- Class of the base client. -/
def baseClient : String :=
  "class AiohttpClient:\n"
    ++ indent (join "\n\n" ("\"\"\"HTTP клиент на базе aiohttp\"\"\"" :: clientMembers))

/-! ## 4. The whole -/

/-- Support code, two empty lines between its parts. -/
def code : String := join "\n\n\n"
  [answerClass, readJson, writeJson, plainText, queryPairs, quotePath, baseClient]

end ClientGen.Support
