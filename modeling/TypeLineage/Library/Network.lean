import TypeLineage.Library.Layout

/-! # The network

    What programs in browsers read, send and receive. -/

namespace TypeLineage.Library

/-- What is declared of files and forms. -/
def fileLines : List String := [
  "type BufferSource = ArrayBufferView<ArrayBuffer> | ArrayBuffer",
  "type BlobPart = BufferSource | Blob | string",
  "type EndingType = \"native\" | \"transparent\"",
  "interface BlobPropertyBag",
  " endings?: EndingType",
  " type?: string",
  "interface Blob",
  " readonly size: number",
  " readonly type: string",
  " arrayBuffer(): Promise<ArrayBuffer>",
  " bytes(): Promise<Uint8Array<ArrayBuffer>>",
  " slice(start?: number, end?: number, contentType?: string): Blob",
  " stream(): ReadableStream<Uint8Array<ArrayBuffer>>",
  " text(): Promise<string>",
  "declare var Blob: \x7b prototype: Blob; new (blobParts?: BlobPart[], options?: BlobPropertyBag): Blob \x7d",
  "interface FilePropertyBag extends BlobPropertyBag",
  " lastModified?: number",
  "interface File extends Blob",
  " readonly lastModified: number",
  " readonly name: string",
  " readonly webkitRelativePath: string",
  "declare var File: \x7b prototype: File; new (fileBits: BlobPart[], fileName: string, options?: FilePropertyBag): File \x7d",
  "interface FileList",
  " readonly length: number",
  " item(index: number): File | null",
  " [index: number]: File",
  "declare var FileList: \x7b prototype: FileList; new (): FileList \x7d",
  "interface FileReaderEventMap",
  " \"abort\": ProgressEvent<FileReader>",
  " \"error\": ProgressEvent<FileReader>",
  " \"load\": ProgressEvent<FileReader>",
  " \"loadend\": ProgressEvent<FileReader>",
  " \"loadstart\": ProgressEvent<FileReader>",
  " \"progress\": ProgressEvent<FileReader>",
  "interface FileReader extends EventTarget",
  " readonly error: DOMException | null",
  " onabort: ((this: FileReader, ev: ProgressEvent<FileReader>) => any) | null",
  " onerror: ((this: FileReader, ev: ProgressEvent<FileReader>) => any) | null",
  " onload: ((this: FileReader, ev: ProgressEvent<FileReader>) => any) | null",
  " onloadend: ((this: FileReader, ev: ProgressEvent<FileReader>) => any) | null",
  " onprogress: ((this: FileReader, ev: ProgressEvent<FileReader>) => any) | null",
  " readonly readyState: 0 | 1 | 2",
  " readonly result: string | ArrayBuffer | null",
  " abort(): void",
  " readAsArrayBuffer(blob: Blob): void",
  " readAsBinaryString(blob: Blob): void",
  " readAsDataURL(blob: Blob): void",
  " readAsText(blob: Blob, encoding?: string): void",
  " addEventListener<K extends keyof FileReaderEventMap>(type: K, listener: (this: FileReader, ev: FileReaderEventMap[K]) => any, options?: boolean | AddEventListenerOptions): void",
  " addEventListener(type: string, listener: EventListenerOrEventListenerObject, options?: boolean | AddEventListenerOptions): void",
  "declare var FileReader: \x7b prototype: FileReader; new (): FileReader \x7d",
  "type FormDataEntryValue = File | string",
  "interface FormData",
  " append(name: string, value: string | Blob): void",
  " append(name: string, value: string): void",
  " append(name: string, blobValue: Blob, filename?: string): void",
  " delete(name: string): void",
  " get(name: string): FormDataEntryValue | null",
  " getAll(name: string): FormDataEntryValue[]",
  " has(name: string): boolean",
  " set(name: string, value: string | Blob): void",
  " set(name: string, value: string): void",
  " set(name: string, blobValue: Blob, filename?: string): void",
  " forEach(callbackfn: (value: FormDataEntryValue, key: string, parent: FormData) => void, thisArg?: any): void",
  "declare var FormData: \x7b prototype: FormData; new (form?: HTMLFormElement, submitter?: HTMLElement | null): FormData \x7d"]

/-- What is declared of requests, answers and addresses. -/
def requestLines : List String := [
  "type HeadersInit = [string, string][] | Record<string, string> | Headers",
  "interface Headers",
  " append(name: string, value: string): void",
  " delete(name: string): void",
  " get(name: string): string | null",
  " getSetCookie(): string[]",
  " has(name: string): boolean",
  " set(name: string, value: string): void",
  " forEach(callbackfn: (value: string, key: string, parent: Headers) => void, thisArg?: any): void",
  "declare var Headers: \x7b prototype: Headers; new (init?: HeadersInit): Headers \x7d",
  "interface Body",
  " readonly body: ReadableStream<Uint8Array<ArrayBuffer>> | null",
  " readonly bodyUsed: boolean",
  " arrayBuffer(): Promise<ArrayBuffer>",
  " blob(): Promise<Blob>",
  " bytes(): Promise<Uint8Array<ArrayBuffer>>",
  " formData(): Promise<FormData>",
  " json(): Promise<any>",
  " text(): Promise<string>",
  "type XMLHttpRequestBodyInit = Blob | BufferSource | FormData | URLSearchParams | string",
  "type BodyInit = ReadableStream | XMLHttpRequestBodyInit",
  "type ReferrerPolicy = \"\" | \"no-referrer\" | \"no-referrer-when-downgrade\" | \"origin\" | \"origin-when-cross-origin\" | \"same-origin\" | \"strict-origin\" | \"strict-origin-when-cross-origin\" | \"unsafe-url\"",
  "type RequestCache = \"default\" | \"force-cache\" | \"no-cache\" | \"no-store\" | \"only-if-cached\" | \"reload\"",
  "type RequestCredentials = \"include\" | \"omit\" | \"same-origin\"",
  "type RequestDestination = \"\" | \"audio\" | \"audioworklet\" | \"document\" | \"embed\" | \"font\" | \"frame\" | \"iframe\" | \"image\" | \"manifest\" | \"object\" | \"paintworklet\" | \"report\" | \"script\" | \"sharedworker\" | \"style\" | \"track\" | \"video\" | \"worker\" | \"xslt\"",
  "type RequestMode = \"cors\" | \"navigate\" | \"no-cors\" | \"same-origin\"",
  "type RequestPriority = \"auto\" | \"high\" | \"low\"",
  "type RequestRedirect = \"error\" | \"follow\" | \"manual\"",
  "type ResponseType = \"basic\" | \"cors\" | \"default\" | \"error\" | \"opaque\" | \"opaqueredirect\"",
  "type RequestInfo = Request | string",
  "interface RequestInit",
  " body?: BodyInit | null",
  " cache?: RequestCache",
  " credentials?: RequestCredentials",
  " headers?: HeadersInit",
  " integrity?: string",
  " keepalive?: boolean",
  " method?: string",
  " mode?: RequestMode",
  " priority?: RequestPriority",
  " redirect?: RequestRedirect",
  " referrer?: string",
  " referrerPolicy?: ReferrerPolicy",
  " signal?: AbortSignal | null",
  " window?: null",
  "interface Request extends Body",
  " readonly cache: RequestCache",
  " readonly credentials: RequestCredentials",
  " readonly destination: RequestDestination",
  " readonly headers: Headers",
  " readonly integrity: string",
  " readonly keepalive: boolean",
  " readonly method: string",
  " readonly mode: RequestMode",
  " readonly redirect: RequestRedirect",
  " readonly referrer: string",
  " readonly referrerPolicy: ReferrerPolicy",
  " readonly signal: AbortSignal",
  " readonly url: string",
  " clone(): Request",
  "declare var Request: \x7b prototype: Request; new (input: RequestInfo | URL, init?: RequestInit): Request \x7d",
  "interface ResponseInit",
  " headers?: HeadersInit",
  " status?: number",
  " statusText?: string",
  "interface Response extends Body",
  " readonly headers: Headers",
  " readonly ok: boolean",
  " readonly redirected: boolean",
  " readonly status: number",
  " readonly statusText: string",
  " readonly type: ResponseType",
  " readonly url: string",
  " clone(): Response",
  "declare var Response: \x7b prototype: Response; new (body?: BodyInit | null, init?: ResponseInit): Response; error(): Response; json(data: any, init?: ResponseInit): Response; redirect(url: string | URL, status?: number): Response \x7d",
  "declare function fetch(input: RequestInfo | URL, init?: RequestInit): Promise<Response>",
  "interface URL",
  " hash: string",
  " host: string",
  " hostname: string",
  " href: string",
  " toString(): string",
  " readonly origin: string",
  " password: string",
  " pathname: string",
  " port: string",
  " protocol: string",
  " search: string",
  " readonly searchParams: URLSearchParams",
  " username: string",
  " toJSON(): string",
  "declare var URL: \x7b prototype: URL; new (url: string | URL, base?: string | URL): URL; canParse(url: string | URL, base?: string | URL): boolean; createObjectURL(obj: Blob | MediaSource): string; parse(url: string | URL, base?: string | URL): URL | null; revokeObjectURL(url: string): void \x7d",
  "interface URLSearchParams",
  " readonly size: number",
  " append(name: string, value: string): void",
  " delete(name: string, value?: string): void",
  " get(name: string): string | null",
  " getAll(name: string): string[]",
  " has(name: string, value?: string): boolean",
  " set(name: string, value: string): void",
  " sort(): void",
  " toString(): string",
  " forEach(callbackfn: (value: string, key: string, parent: URLSearchParams) => void, thisArg?: any): void",
  "declare var URLSearchParams: \x7b prototype: URLSearchParams; new (init?: string[][] | Record<string, string> | string | URLSearchParams): URLSearchParams \x7d"]

/-- What is declared of streams, and of text as bytes. -/
def streamLines : List String := [
  "interface QueuingStrategySize<T = any>",
  " (chunk: T): number",
  "interface QueuingStrategy<T = any>",
  " highWaterMark?: number",
  " size?: QueuingStrategySize<T>",
  "type ReadableStreamReadResult<T> = ReadableStreamReadValueResult<T> | ReadableStreamReadDoneResult<T>",
  "interface ReadableStreamReadValueResult<T>",
  " done: false",
  " value: T",
  "interface ReadableStreamReadDoneResult<T>",
  " done: true",
  " value: T | undefined",
  "interface ReadableStreamGenericReader",
  " readonly closed: Promise<void>",
  " cancel(reason?: any): Promise<void>",
  "interface ReadableStreamDefaultReader<R = any> extends ReadableStreamGenericReader",
  " read(): Promise<ReadableStreamReadResult<R>>",
  " releaseLock(): void",
  "declare var ReadableStreamDefaultReader: \x7b prototype: ReadableStreamDefaultReader; new <R = any>(stream: ReadableStream<R>): ReadableStreamDefaultReader<R> \x7d",
  "interface ReadableStreamDefaultController<R = any>",
  " readonly desiredSize: number | null",
  " close(): void",
  " enqueue(chunk?: R): void",
  " error(e?: any): void",
  "interface UnderlyingDefaultSource<R = any>",
  " cancel?: UnderlyingSourceCancelCallback",
  " pull?: (controller: ReadableStreamDefaultController<R>) => void | PromiseLike<void>",
  " start?: (controller: ReadableStreamDefaultController<R>) => any",
  " type?: undefined",
  "interface UnderlyingSourceCancelCallback",
  " (reason?: any): void | PromiseLike<void>",
  "interface StreamPipeOptions",
  " preventAbort?: boolean",
  " preventCancel?: boolean",
  " preventClose?: boolean",
  " signal?: AbortSignal",
  "interface ReadableWritablePair<R = any, W = any>",
  " readable: ReadableStream<R>",
  " writable: WritableStream<W>",
  "interface ReadableStream<R = any>",
  " readonly locked: boolean",
  " cancel(reason?: any): Promise<void>",
  " getReader(): ReadableStreamDefaultReader<R>",
  " pipeThrough<T>(transform: ReadableWritablePair<T, R>, options?: StreamPipeOptions): ReadableStream<T>",
  " pipeTo(destination: WritableStream<R>, options?: StreamPipeOptions): Promise<void>",
  " tee(): [ReadableStream<R>, ReadableStream<R>]",
  "declare var ReadableStream: \x7b prototype: ReadableStream; new <R = any>(underlyingSource: UnderlyingDefaultSource<R>, strategy?: QueuingStrategy<R>): ReadableStream<R> \x7d",
  "interface WritableStreamDefaultWriter<W = any>",
  " readonly closed: Promise<void>",
  " readonly desiredSize: number | null",
  " readonly ready: Promise<void>",
  " abort(reason?: any): Promise<void>",
  " close(): Promise<void>",
  " releaseLock(): void",
  " write(chunk?: W): Promise<void>",
  "interface WritableStream<W = any>",
  " readonly locked: boolean",
  " abort(reason?: any): Promise<void>",
  " close(): Promise<void>",
  " getWriter(): WritableStreamDefaultWriter<W>",
  "declare var WritableStream: \x7b prototype: WritableStream; new <W = any>(underlyingSink?: object, strategy?: QueuingStrategy<W>): WritableStream<W> \x7d",
  "interface TransformStream<I = any, O = any>",
  " readonly readable: ReadableStream<O>",
  " readonly writable: WritableStream<I>",
  "declare var TransformStream: \x7b prototype: TransformStream; new <I = any, O = any>(transformer?: object, writableStrategy?: QueuingStrategy<I>, readableStrategy?: QueuingStrategy<O>): TransformStream<I, O> \x7d",
  "interface TextEncoder",
  " readonly encoding: string",
  " encode(input?: string): Uint8Array<ArrayBuffer>",
  " encodeInto(source: string, destination: Uint8Array<ArrayBufferLike>): TextEncoderEncodeIntoResult",
  "interface TextEncoderEncodeIntoResult",
  " read: number",
  " written: number",
  "declare var TextEncoder: \x7b prototype: TextEncoder; new (): TextEncoder \x7d",
  "interface TextDecodeOptions",
  " stream?: boolean",
  "interface TextDecoderOptions",
  " fatal?: boolean",
  " ignoreBOM?: boolean",
  "type AllowSharedBufferSource = ArrayBufferLike | ArrayBufferView<ArrayBufferLike>",
  "interface TextDecoder",
  " readonly encoding: string",
  " readonly fatal: boolean",
  " readonly ignoreBOM: boolean",
  " decode(input?: AllowSharedBufferSource, options?: TextDecodeOptions): string",
  "declare var TextDecoder: \x7b prototype: TextDecoder; new (label?: string, options?: TextDecoderOptions): TextDecoder \x7d"]

/-- What is declared of connections, workers and secrets. -/
def connectionLines : List String := [
  "interface XMLHttpRequestEventTargetEventMap",
  " \"abort\": ProgressEvent",
  " \"error\": ProgressEvent",
  " \"load\": ProgressEvent",
  " \"loadend\": ProgressEvent",
  " \"loadstart\": ProgressEvent",
  " \"progress\": ProgressEvent",
  " \"timeout\": ProgressEvent",
  "interface XMLHttpRequestEventTarget extends EventTarget",
  " onabort: ((this: XMLHttpRequest, ev: ProgressEvent) => any) | null",
  " onerror: ((this: XMLHttpRequest, ev: ProgressEvent) => any) | null",
  " onload: ((this: XMLHttpRequest, ev: ProgressEvent) => any) | null",
  " onloadend: ((this: XMLHttpRequest, ev: ProgressEvent) => any) | null",
  " onloadstart: ((this: XMLHttpRequest, ev: ProgressEvent) => any) | null",
  " onprogress: ((this: XMLHttpRequest, ev: ProgressEvent) => any) | null",
  " ontimeout: ((this: XMLHttpRequest, ev: ProgressEvent) => any) | null",
  "interface XMLHttpRequestEventMap extends XMLHttpRequestEventTargetEventMap",
  " \"readystatechange\": Event",
  "type XMLHttpRequestResponseType = \"\" | \"arraybuffer\" | \"blob\" | \"document\" | \"json\" | \"text\"",
  "interface XMLHttpRequestUpload extends XMLHttpRequestEventTarget",
  "interface XMLHttpRequest extends XMLHttpRequestEventTarget",
  " onreadystatechange: ((this: XMLHttpRequest, ev: Event) => any) | null",
  " readonly readyState: number",
  " readonly response: any",
  " readonly responseText: string",
  " responseType: XMLHttpRequestResponseType",
  " readonly responseURL: string",
  " readonly responseXML: Document | null",
  " readonly status: number",
  " readonly statusText: string",
  " timeout: number",
  " readonly upload: XMLHttpRequestUpload",
  " withCredentials: boolean",
  " abort(): void",
  " getAllResponseHeaders(): string",
  " getResponseHeader(name: string): string | null",
  " open(method: string, url: string | URL): void",
  " open(method: string, url: string | URL, async: boolean, username?: string | null, password?: string | null): void",
  " overrideMimeType(mime: string): void",
  " send(body?: Document | XMLHttpRequestBodyInit | null): void",
  " setRequestHeader(name: string, value: string): void",
  " readonly UNSENT: 0",
  " readonly OPENED: 1",
  " readonly HEADERS_RECEIVED: 2",
  " readonly LOADING: 3",
  " readonly DONE: 4",
  " addEventListener<K extends keyof XMLHttpRequestEventMap>(type: K, listener: (this: XMLHttpRequest, ev: XMLHttpRequestEventMap[K]) => any, options?: boolean | AddEventListenerOptions): void",
  " addEventListener(type: string, listener: EventListenerOrEventListenerObject, options?: boolean | AddEventListenerOptions): void",
  "declare var XMLHttpRequest: \x7b prototype: XMLHttpRequest; new (): XMLHttpRequest; readonly UNSENT: 0; readonly OPENED: 1; readonly HEADERS_RECEIVED: 2; readonly LOADING: 3; readonly DONE: 4 \x7d",
  "interface WebSocketEventMap",
  " \"close\": CloseEvent",
  " \"error\": Event",
  " \"message\": MessageEvent",
  " \"open\": Event",
  "type BinaryType = \"arraybuffer\" | \"blob\"",
  "interface WebSocket extends EventTarget",
  " binaryType: BinaryType",
  " readonly bufferedAmount: number",
  " readonly extensions: string",
  " onclose: ((this: WebSocket, ev: CloseEvent) => any) | null",
  " onerror: ((this: WebSocket, ev: Event) => any) | null",
  " onmessage: ((this: WebSocket, ev: MessageEvent) => any) | null",
  " onopen: ((this: WebSocket, ev: Event) => any) | null",
  " readonly protocol: string",
  " readonly readyState: number",
  " readonly url: string",
  " close(code?: number, reason?: string): void",
  " send(data: string | BufferSource | Blob): void",
  " readonly CONNECTING: 0",
  " readonly OPEN: 1",
  " readonly CLOSING: 2",
  " readonly CLOSED: 3",
  " addEventListener<K extends keyof WebSocketEventMap>(type: K, listener: (this: WebSocket, ev: WebSocketEventMap[K]) => any, options?: boolean | AddEventListenerOptions): void",
  " addEventListener(type: string, listener: EventListenerOrEventListenerObject, options?: boolean | AddEventListenerOptions): void",
  " removeEventListener<K extends keyof WebSocketEventMap>(type: K, listener: (this: WebSocket, ev: WebSocketEventMap[K]) => any, options?: boolean | EventListenerOptions): void",
  " removeEventListener(type: string, listener: EventListenerOrEventListenerObject, options?: boolean | EventListenerOptions): void",
  "declare var WebSocket: \x7b prototype: WebSocket; new (url: string | URL, protocols?: string | string[]): WebSocket; readonly CONNECTING: 0; readonly OPEN: 1; readonly CLOSING: 2; readonly CLOSED: 3 \x7d",
  "interface AbstractWorkerEventMap",
  " \"error\": ErrorEvent",
  "interface WorkerEventMap extends AbstractWorkerEventMap",
  " \"message\": MessageEvent",
  " \"messageerror\": MessageEvent",
  "type WorkerType = \"classic\" | \"module\"",
  "interface WorkerOptions",
  " credentials?: RequestCredentials",
  " name?: string",
  " type?: WorkerType",
  "interface Worker extends EventTarget",
  " onerror: ((this: Worker, ev: ErrorEvent) => any) | null",
  " onmessage: ((this: Worker, ev: MessageEvent) => any) | null",
  " onmessageerror: ((this: Worker, ev: MessageEvent) => any) | null",
  " postMessage(message: any, transfer: Transferable[]): void",
  " postMessage(message: any, options?: StructuredSerializeOptions): void",
  " terminate(): void",
  " addEventListener<K extends keyof WorkerEventMap>(type: K, listener: (this: Worker, ev: WorkerEventMap[K]) => any, options?: boolean | AddEventListenerOptions): void",
  " addEventListener(type: string, listener: EventListenerOrEventListenerObject, options?: boolean | AddEventListenerOptions): void",
  "declare var Worker: \x7b prototype: Worker; new (scriptURL: string | URL, options?: WorkerOptions): Worker \x7d",
  "interface ServiceWorker extends EventTarget",
  " readonly scriptURL: string",
  " postMessage(message: any, transfer: Transferable[]): void",
  " postMessage(message: any, options?: StructuredSerializeOptions): void",
  "interface MediaSource extends EventTarget",
  " duration: number",
  "interface BroadcastChannel extends EventTarget",
  " readonly name: string",
  " onmessage: ((this: BroadcastChannel, ev: MessageEvent) => any) | null",
  " close(): void",
  " postMessage(message: any): void",
  "declare var BroadcastChannel: \x7b prototype: BroadcastChannel; new (name: string): BroadcastChannel \x7d",
  "interface EventSource extends EventTarget",
  " onerror: ((this: EventSource, ev: Event) => any) | null",
  " onmessage: ((this: EventSource, ev: MessageEvent) => any) | null",
  " onopen: ((this: EventSource, ev: Event) => any) | null",
  " readonly readyState: number",
  " readonly url: string",
  " readonly withCredentials: boolean",
  " close(): void",
  "declare var EventSource: \x7b prototype: EventSource; new (url: string | URL): EventSource \x7d",
  "interface SubtleCrypto",
  " digest(algorithm: string, data: BufferSource): Promise<ArrayBuffer>",
  "interface Crypto",
  " readonly subtle: SubtleCrypto",
  " getRandomValues<T extends ArrayBufferView>(array: T): T",
  " randomUUID(): \x60$\x7bstring\x7d-$\x7bstring\x7d-$\x7bstring\x7d-$\x7bstring\x7d-$\x7bstring\x7d\x60",
  "declare var Crypto: \x7b prototype: Crypto; new (): Crypto \x7d",
  "declare var crypto: Crypto"]

end TypeLineage.Library
