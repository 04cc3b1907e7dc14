import TypeLineage.Library.Layout

/-! # Events

    What happens in programs that run in browsers, and who listens to it. -/

namespace TypeLineage.Library

/-- What is declared of events and of those who listen. -/
def eventLines : List String := [
  "type DOMHighResTimeStamp = number",
  "interface EventInit",
  " bubbles?: boolean",
  " cancelable?: boolean",
  " composed?: boolean",
  "interface Event",
  " readonly bubbles: boolean",
  " cancelBubble: boolean",
  " readonly cancelable: boolean",
  " readonly composed: boolean",
  " readonly currentTarget: EventTarget | null",
  " readonly defaultPrevented: boolean",
  " readonly eventPhase: number",
  " readonly isTrusted: boolean",
  " returnValue: boolean",
  " readonly srcElement: EventTarget | null",
  " readonly target: EventTarget | null",
  " readonly timeStamp: DOMHighResTimeStamp",
  " readonly type: string",
  " composedPath(): EventTarget[]",
  " initEvent(type: string, bubbles?: boolean, cancelable?: boolean): void",
  " preventDefault(): void",
  " stopImmediatePropagation(): void",
  " stopPropagation(): void",
  " readonly NONE: 0",
  " readonly CAPTURING_PHASE: 1",
  " readonly AT_TARGET: 2",
  " readonly BUBBLING_PHASE: 3",
  "declare var Event: \x7b prototype: Event; new (type: string, eventInitDict?: EventInit): Event; readonly NONE: 0; readonly CAPTURING_PHASE: 1; readonly AT_TARGET: 2; readonly BUBBLING_PHASE: 3 \x7d",
  "interface EventListener",
  " (evt: Event): void",
  "interface EventListenerObject",
  " handleEvent(object: Event): void",
  "type EventListenerOrEventListenerObject = EventListener | EventListenerObject",
  "interface EventListenerOptions",
  " capture?: boolean",
  "interface AddEventListenerOptions extends EventListenerOptions",
  " once?: boolean",
  " passive?: boolean",
  " signal?: AbortSignal",
  "interface EventTarget",
  " addEventListener(type: string, callback: EventListenerOrEventListenerObject | null, options?: AddEventListenerOptions | boolean): void",
  " dispatchEvent(event: Event): boolean",
  " removeEventListener(type: string, callback: EventListenerOrEventListenerObject | null, options?: EventListenerOptions | boolean): void",
  "declare var EventTarget: \x7b prototype: EventTarget; new (): EventTarget \x7d",
  "interface CustomEventInit<T = any> extends EventInit",
  " detail?: T",
  "interface CustomEvent<T = any> extends Event",
  " readonly detail: T",
  " initCustomEvent(type: string, bubbles?: boolean, cancelable?: boolean, detail?: T): void",
  "declare var CustomEvent: \x7b prototype: CustomEvent; new <T>(type: string, eventInitDict?: CustomEventInit<T>): CustomEvent<T> \x7d"]

/-- What is declared of events that come from hands on a machine. -/
def inputEventLines : List String := [
  "interface UIEventInit extends EventInit",
  " detail?: number",
  " view?: Window | null",
  " which?: number",
  "interface UIEvent extends Event",
  " readonly detail: number",
  " readonly view: Window | null",
  " readonly which: number",
  "declare var UIEvent: \x7b prototype: UIEvent; new (type: string, eventInitDict?: UIEventInit): UIEvent \x7d",
  "interface EventModifierInit extends UIEventInit",
  " altKey?: boolean",
  " ctrlKey?: boolean",
  " metaKey?: boolean",
  " shiftKey?: boolean",
  "interface MouseEventInit extends EventModifierInit",
  " button?: number",
  " buttons?: number",
  " clientX?: number",
  " clientY?: number",
  " movementX?: number",
  " movementY?: number",
  " relatedTarget?: EventTarget | null",
  " screenX?: number",
  " screenY?: number",
  "interface MouseEvent extends UIEvent",
  " readonly altKey: boolean",
  " readonly button: number",
  " readonly buttons: number",
  " readonly clientX: number",
  " readonly clientY: number",
  " readonly ctrlKey: boolean",
  " readonly layerX: number",
  " readonly layerY: number",
  " readonly metaKey: boolean",
  " readonly movementX: number",
  " readonly movementY: number",
  " readonly offsetX: number",
  " readonly offsetY: number",
  " readonly pageX: number",
  " readonly pageY: number",
  " readonly relatedTarget: EventTarget | null",
  " readonly screenX: number",
  " readonly screenY: number",
  " readonly shiftKey: boolean",
  " readonly x: number",
  " readonly y: number",
  " getModifierState(keyArg: string): boolean",
  "declare var MouseEvent: \x7b prototype: MouseEvent; new (type: string, eventInitDict?: MouseEventInit): MouseEvent \x7d",
  "interface PointerEventInit extends MouseEventInit",
  " height?: number",
  " isPrimary?: boolean",
  " pointerId?: number",
  " pointerType?: string",
  " pressure?: number",
  " width?: number",
  "interface PointerEvent extends MouseEvent",
  " readonly altitudeAngle: number",
  " readonly azimuthAngle: number",
  " readonly height: number",
  " readonly isPrimary: boolean",
  " readonly pointerId: number",
  " readonly pointerType: string",
  " readonly pressure: number",
  " readonly tangentialPressure: number",
  " readonly tiltX: number",
  " readonly tiltY: number",
  " readonly twist: number",
  " readonly width: number",
  " getCoalescedEvents(): PointerEvent[]",
  " getPredictedEvents(): PointerEvent[]",
  "declare var PointerEvent: \x7b prototype: PointerEvent; new (type: string, eventInitDict?: PointerEventInit): PointerEvent \x7d",
  "interface WheelEventInit extends MouseEventInit",
  " deltaMode?: number",
  " deltaX?: number",
  " deltaY?: number",
  " deltaZ?: number",
  "interface WheelEvent extends MouseEvent",
  " readonly deltaMode: number",
  " readonly deltaX: number",
  " readonly deltaY: number",
  " readonly deltaZ: number",
  "declare var WheelEvent: \x7b prototype: WheelEvent; new (type: string, eventInitDict?: WheelEventInit): WheelEvent \x7d",
  "interface DragEvent extends MouseEvent",
  " readonly dataTransfer: DataTransfer | null",
  "declare var DragEvent: \x7b prototype: DragEvent; new (type: string, eventInitDict?: MouseEventInit): DragEvent \x7d",
  "interface KeyboardEventInit extends EventModifierInit",
  " charCode?: number",
  " code?: string",
  " isComposing?: boolean",
  " key?: string",
  " keyCode?: number",
  " location?: number",
  " repeat?: boolean",
  "interface KeyboardEvent extends UIEvent",
  " readonly altKey: boolean",
  " readonly charCode: number",
  " readonly code: string",
  " readonly ctrlKey: boolean",
  " readonly isComposing: boolean",
  " readonly key: string",
  " readonly keyCode: number",
  " readonly location: number",
  " readonly metaKey: boolean",
  " readonly repeat: boolean",
  " readonly shiftKey: boolean",
  " getModifierState(keyArg: string): boolean",
  "declare var KeyboardEvent: \x7b prototype: KeyboardEvent; new (type: string, eventInitDict?: KeyboardEventInit): KeyboardEvent \x7d",
  "interface FocusEventInit extends UIEventInit",
  " relatedTarget?: EventTarget | null",
  "interface FocusEvent extends UIEvent",
  " readonly relatedTarget: EventTarget | null",
  "declare var FocusEvent: \x7b prototype: FocusEvent; new (type: string, eventInitDict?: FocusEventInit): FocusEvent \x7d",
  "interface InputEventInit extends UIEventInit",
  " data?: string | null",
  " inputType?: string",
  " isComposing?: boolean",
  "interface InputEvent extends UIEvent",
  " readonly data: string | null",
  " readonly dataTransfer: DataTransfer | null",
  " readonly inputType: string",
  " readonly isComposing: boolean",
  "declare var InputEvent: \x7b prototype: InputEvent; new (type: string, eventInitDict?: InputEventInit): InputEvent \x7d",
  "interface CompositionEvent extends UIEvent",
  " readonly data: string",
  "interface SubmitEvent extends Event",
  " readonly submitter: HTMLElement | null",
  "declare var SubmitEvent: \x7b prototype: SubmitEvent; new (type: string, eventInitDict?: EventInit): SubmitEvent \x7d",
  "interface Touch",
  " readonly clientX: number",
  " readonly clientY: number",
  " readonly force: number",
  " readonly identifier: number",
  " readonly pageX: number",
  " readonly pageY: number",
  " readonly radiusX: number",
  " readonly radiusY: number",
  " readonly rotationAngle: number",
  " readonly screenX: number",
  " readonly screenY: number",
  " readonly target: EventTarget",
  "interface TouchList",
  " readonly length: number",
  " item(index: number): Touch | null",
  " [index: number]: Touch",
  "interface TouchEvent extends UIEvent",
  " readonly altKey: boolean",
  " readonly changedTouches: TouchList",
  " readonly ctrlKey: boolean",
  " readonly metaKey: boolean",
  " readonly shiftKey: boolean",
  " readonly targetTouches: TouchList",
  " readonly touches: TouchList"]

/-- What is declared of events that carry news. -/
def newsEventLines : List String := [
  "interface ClipboardEvent extends Event",
  " readonly clipboardData: DataTransfer | null",
  "interface DataTransfer",
  " dropEffect: \"none\" | \"copy\" | \"link\" | \"move\"",
  " effectAllowed: \"none\" | \"copy\" | \"copyLink\" | \"copyMove\" | \"link\" | \"linkMove\" | \"move\" | \"all\" | \"uninitialized\"",
  " readonly files: FileList",
  " readonly types: ReadonlyArray<string>",
  " clearData(format?: string): void",
  " getData(format: string): string",
  " setData(format: string, data: string): void",
  " setDragImage(image: Element, x: number, y: number): void",
  "declare var DataTransfer: \x7b prototype: DataTransfer; new (): DataTransfer \x7d",
  "interface AnimationEvent extends Event",
  " readonly animationName: string",
  " readonly elapsedTime: number",
  " readonly pseudoElement: string",
  "interface TransitionEvent extends Event",
  " readonly elapsedTime: number",
  " readonly propertyName: string",
  " readonly pseudoElement: string",
  "interface ErrorEventInit extends EventInit",
  " colno?: number",
  " error?: any",
  " filename?: string",
  " lineno?: number",
  " message?: string",
  "interface ErrorEvent extends Event",
  " readonly colno: number",
  " readonly error: any",
  " readonly filename: string",
  " readonly lineno: number",
  " readonly message: string",
  "declare var ErrorEvent: \x7b prototype: ErrorEvent; new (type: string, eventInitDict?: ErrorEventInit): ErrorEvent \x7d",
  "interface PromiseRejectionEvent extends Event",
  " readonly promise: Promise<any>",
  " readonly reason: any",
  "interface ProgressEvent<T extends EventTarget = EventTarget> extends Event",
  " readonly lengthComputable: boolean",
  " readonly loaded: number",
  " readonly target: T | null",
  " readonly total: number",
  "declare var ProgressEvent: \x7b prototype: ProgressEvent; new (type: string, eventInitDict?: EventInit): ProgressEvent \x7d",
  "interface MessageEventInit<T = any> extends EventInit",
  " data?: T",
  " lastEventId?: string",
  " origin?: string",
  " ports?: MessagePort[]",
  " source?: MessageEventSource | null",
  "type MessageEventSource = WindowProxy | MessagePort | ServiceWorker",
  "interface MessageEvent<T = any> extends Event",
  " readonly data: T",
  " readonly lastEventId: string",
  " readonly origin: string",
  " readonly ports: ReadonlyArray<MessagePort>",
  " readonly source: MessageEventSource | null",
  "declare var MessageEvent: \x7b prototype: MessageEvent; new <T>(type: string, eventInitDict?: MessageEventInit<T>): MessageEvent<T> \x7d",
  "interface CloseEvent extends Event",
  " readonly code: number",
  " readonly reason: string",
  " readonly wasClean: boolean",
  "declare var CloseEvent: \x7b prototype: CloseEvent; new (type: string, eventInitDict?: EventInit): CloseEvent \x7d",
  "interface HashChangeEvent extends Event",
  " readonly newURL: string",
  " readonly oldURL: string",
  "interface PopStateEvent extends Event",
  " readonly hasUAVisualTransition: boolean",
  " readonly state: any",
  "interface StorageEvent extends Event",
  " readonly key: string | null",
  " readonly newValue: string | null",
  " readonly oldValue: string | null",
  " readonly storageArea: Storage | null",
  " readonly url: string",
  "interface BeforeUnloadEvent extends Event",
  " returnValue: any",
  "interface PageTransitionEvent extends Event",
  " readonly persisted: boolean"]

/-- What is declared of messages, signals and what goes wrong. -/
def messageLines : List String := [
  "interface MessagePortEventMap",
  " \"message\": MessageEvent",
  " \"messageerror\": MessageEvent",
  "interface MessagePort extends EventTarget",
  " onmessage: ((this: MessagePort, ev: MessageEvent) => any) | null",
  " onmessageerror: ((this: MessagePort, ev: MessageEvent) => any) | null",
  " close(): void",
  " postMessage(message: any, transfer: Transferable[]): void",
  " postMessage(message: any, options?: StructuredSerializeOptions): void",
  " start(): void",
  " addEventListener<K extends keyof MessagePortEventMap>(type: K, listener: (this: MessagePort, ev: MessagePortEventMap[K]) => any, options?: boolean | AddEventListenerOptions): void",
  " addEventListener(type: string, listener: EventListenerOrEventListenerObject, options?: boolean | AddEventListenerOptions): void",
  "interface MessageChannel",
  " readonly port1: MessagePort",
  " readonly port2: MessagePort",
  "declare var MessageChannel: \x7b prototype: MessageChannel; new (): MessageChannel \x7d",
  "interface StructuredSerializeOptions",
  " transfer?: Transferable[]",
  "type Transferable = MessagePort | ReadableStream | ArrayBuffer",
  "interface AbortSignalEventMap",
  " \"abort\": Event",
  "interface AbortSignal extends EventTarget",
  " readonly aborted: boolean",
  " onabort: ((this: AbortSignal, ev: Event) => any) | null",
  " readonly reason: any",
  " throwIfAborted(): void",
  " addEventListener<K extends keyof AbortSignalEventMap>(type: K, listener: (this: AbortSignal, ev: AbortSignalEventMap[K]) => any, options?: boolean | AddEventListenerOptions): void",
  " addEventListener(type: string, listener: EventListenerOrEventListenerObject, options?: boolean | AddEventListenerOptions): void",
  " removeEventListener<K extends keyof AbortSignalEventMap>(type: K, listener: (this: AbortSignal, ev: AbortSignalEventMap[K]) => any, options?: boolean | EventListenerOptions): void",
  " removeEventListener(type: string, listener: EventListenerOrEventListenerObject, options?: boolean | EventListenerOptions): void",
  "declare var AbortSignal: \x7b prototype: AbortSignal; new (): AbortSignal; abort(reason?: any): AbortSignal; any(signals: AbortSignal[]): AbortSignal; timeout(milliseconds: number): AbortSignal \x7d",
  "interface AbortController",
  " readonly signal: AbortSignal",
  " abort(reason?: any): void",
  "declare var AbortController: \x7b prototype: AbortController; new (): AbortController \x7d",
  "interface ErrorCallback",
  " (err: DOMException): void",
  "interface DOMException extends Error",
  " readonly code: number",
  " readonly message: string",
  " readonly name: string",
  "declare var DOMException: \x7b prototype: DOMException; new (message?: string, name?: string): DOMException \x7d"]

end TypeLineage.Library
