import TypeLineage.Library.Layout

/-! # Elements of pages

    The elements that pages have names for. -/

namespace TypeLineage.Library

/-- What is declared of the elements from anchors to images. -/
def anchorToImageLines : List String := [
  "interface HTMLAnchorElement extends HTMLElement",
  " download: string",
  " hreflang: string",
  " rel: string",
  " readonly relList: DOMTokenList",
  " target: string",
  " text: string",
  " type: string",
  " hash: string",
  " host: string",
  " hostname: string",
  " href: string",
  " toString(): string",
  " readonly origin: string",
  " password: string",
  " pathname: string",
  " port: string",
  " protocol: string",
  " search: string",
  " username: string",
  "declare var HTMLAnchorElement: \x7b prototype: HTMLAnchorElement; new (): HTMLAnchorElement \x7d",
  "interface HTMLAreaElement extends HTMLElement",
  " alt: string",
  " coords: string",
  " href: string",
  " shape: string",
  " target: string",
  "declare var HTMLAreaElement: \x7b prototype: HTMLAreaElement; new (): HTMLAreaElement \x7d",
  "interface HTMLAudioElement extends HTMLMediaElement",
  "declare var HTMLAudioElement: \x7b prototype: HTMLAudioElement; new (): HTMLAudioElement \x7d",
  "interface HTMLBRElement extends HTMLElement",
  "declare var HTMLBRElement: \x7b prototype: HTMLBRElement; new (): HTMLBRElement \x7d",
  "interface HTMLBaseElement extends HTMLElement",
  " href: string",
  " target: string",
  "declare var HTMLBaseElement: \x7b prototype: HTMLBaseElement; new (): HTMLBaseElement \x7d",
  "interface HTMLBodyElement extends HTMLElement",
  "declare var HTMLBodyElement: \x7b prototype: HTMLBodyElement; new (): HTMLBodyElement \x7d",
  "interface HTMLButtonElement extends HTMLElement",
  " disabled: boolean",
  " readonly form: HTMLFormElement | null",
  " formAction: string",
  " readonly labels: NodeListOf<HTMLLabelElement>",
  " name: string",
  " type: \"submit\" | \"reset\" | \"button\"",
  " readonly validationMessage: string",
  " readonly validity: ValidityState",
  " value: string",
  " readonly willValidate: boolean",
  " checkValidity(): boolean",
  " reportValidity(): boolean",
  " setCustomValidity(error: string): void",
  "declare var HTMLButtonElement: \x7b prototype: HTMLButtonElement; new (): HTMLButtonElement \x7d",
  "interface HTMLCanvasElement extends HTMLElement",
  " height: number",
  " width: number",
  " getContext(contextId: \"2d\", options?: any): CanvasRenderingContext2D | null",
  " getContext(contextId: string, options?: any): RenderingContext | null",
  " toBlob(callback: BlobCallback, type?: string, quality?: number): void",
  " toDataURL(type?: string, quality?: number): string",
  "declare var HTMLCanvasElement: \x7b prototype: HTMLCanvasElement; new (): HTMLCanvasElement \x7d",
  "interface HTMLDListElement extends HTMLElement",
  "declare var HTMLDListElement: \x7b prototype: HTMLDListElement; new (): HTMLDListElement \x7d",
  "interface HTMLDataElement extends HTMLElement",
  " value: string",
  "declare var HTMLDataElement: \x7b prototype: HTMLDataElement; new (): HTMLDataElement \x7d",
  "interface HTMLDataListElement extends HTMLElement",
  " readonly options: HTMLCollectionOf<HTMLOptionElement>",
  "declare var HTMLDataListElement: \x7b prototype: HTMLDataListElement; new (): HTMLDataListElement \x7d",
  "interface HTMLDetailsElement extends HTMLElement",
  " name: string",
  " open: boolean",
  "declare var HTMLDetailsElement: \x7b prototype: HTMLDetailsElement; new (): HTMLDetailsElement \x7d",
  "interface HTMLDialogElement extends HTMLElement",
  " open: boolean",
  " returnValue: string",
  " close(returnValue?: string): void",
  " show(): void",
  " showModal(): void",
  "declare var HTMLDialogElement: \x7b prototype: HTMLDialogElement; new (): HTMLDialogElement \x7d",
  "interface HTMLDivElement extends HTMLElement",
  "declare var HTMLDivElement: \x7b prototype: HTMLDivElement; new (): HTMLDivElement \x7d",
  "interface HTMLEmbedElement extends HTMLElement",
  " height: string",
  " src: string",
  " type: string",
  " width: string",
  "declare var HTMLEmbedElement: \x7b prototype: HTMLEmbedElement; new (): HTMLEmbedElement \x7d",
  "interface HTMLFieldSetElement extends HTMLElement",
  " disabled: boolean",
  " readonly elements: HTMLCollection",
  " readonly form: HTMLFormElement | null",
  " name: string",
  " readonly type: string",
  "declare var HTMLFieldSetElement: \x7b prototype: HTMLFieldSetElement; new (): HTMLFieldSetElement \x7d",
  "interface HTMLFormElement extends HTMLElement",
  " acceptCharset: string",
  " action: string",
  " autocomplete: AutoFillBase",
  " readonly elements: HTMLFormControlsCollection",
  " encoding: string",
  " enctype: string",
  " readonly length: number",
  " method: string",
  " name: string",
  " noValidate: boolean",
  " target: string",
  " checkValidity(): boolean",
  " reportValidity(): boolean",
  " requestSubmit(submitter?: HTMLElement | null): void",
  " reset(): void",
  " submit(): void",
  " [index: number]: Element",
  " [name: string]: any",
  "declare var HTMLFormElement: \x7b prototype: HTMLFormElement; new (): HTMLFormElement \x7d",
  "interface HTMLHRElement extends HTMLElement",
  "declare var HTMLHRElement: \x7b prototype: HTMLHRElement; new (): HTMLHRElement \x7d",
  "interface HTMLHeadElement extends HTMLElement",
  "declare var HTMLHeadElement: \x7b prototype: HTMLHeadElement; new (): HTMLHeadElement \x7d",
  "interface HTMLHeadingElement extends HTMLElement",
  "declare var HTMLHeadingElement: \x7b prototype: HTMLHeadingElement; new (): HTMLHeadingElement \x7d",
  "interface HTMLHtmlElement extends HTMLElement",
  "declare var HTMLHtmlElement: \x7b prototype: HTMLHtmlElement; new (): HTMLHtmlElement \x7d",
  "interface HTMLIFrameElement extends HTMLElement",
  " allow: string",
  " allowFullscreen: boolean",
  " readonly contentDocument: Document | null",
  " readonly contentWindow: WindowProxy | null",
  " height: string",
  " loading: \"eager\" | \"lazy\"",
  " name: string",
  " readonly sandbox: DOMTokenList",
  " src: string",
  " srcdoc: string",
  " width: string",
  " getSVGDocument(): Document | null",
  "declare var HTMLIFrameElement: \x7b prototype: HTMLIFrameElement; new (): HTMLIFrameElement \x7d",
  "interface HTMLImageElement extends HTMLElement",
  " alt: string",
  " readonly complete: boolean",
  " crossOrigin: string | null",
  " readonly currentSrc: string",
  " decoding: \"async\" | \"sync\" | \"auto\"",
  " height: number",
  " isMap: boolean",
  " loading: \"eager\" | \"lazy\"",
  " readonly naturalHeight: number",
  " readonly naturalWidth: number",
  " sizes: string",
  " src: string",
  " srcset: string",
  " useMap: string",
  " width: number",
  " readonly x: number",
  " readonly y: number",
  " decode(): Promise<void>",
  "declare var HTMLImageElement: \x7b prototype: HTMLImageElement; new (): HTMLImageElement \x7d"]

/-- What is declared of the elements from inputs to quotes. -/
def inputToQuoteLines : List String := [
  "interface HTMLInputElement extends HTMLElement",
  " accept: string",
  " alt: string",
  " autocomplete: AutoFill",
  " checked: boolean",
  " defaultChecked: boolean",
  " defaultValue: string",
  " dirName: string",
  " disabled: boolean",
  " files: FileList | null",
  " readonly form: HTMLFormElement | null",
  " height: number",
  " indeterminate: boolean",
  " readonly labels: NodeListOf<HTMLLabelElement> | null",
  " readonly list: HTMLDataListElement | null",
  " max: string",
  " maxLength: number",
  " min: string",
  " minLength: number",
  " multiple: boolean",
  " name: string",
  " pattern: string",
  " placeholder: string",
  " readOnly: boolean",
  " required: boolean",
  " selectionDirection: \"forward\" | \"backward\" | \"none\" | null",
  " selectionEnd: number | null",
  " selectionStart: number | null",
  " size: number",
  " src: string",
  " step: string",
  " type: string",
  " readonly validationMessage: string",
  " readonly validity: ValidityState",
  " value: string",
  " valueAsDate: Date | null",
  " valueAsNumber: number",
  " width: number",
  " readonly willValidate: boolean",
  " checkValidity(): boolean",
  " reportValidity(): boolean",
  " select(): void",
  " setCustomValidity(error: string): void",
  " setRangeText(replacement: string): void",
  " setSelectionRange(start: number | null, end: number | null, direction?: \"forward\" | \"backward\" | \"none\"): void",
  " showPicker(): void",
  " stepDown(n?: number): void",
  " stepUp(n?: number): void",
  "declare var HTMLInputElement: \x7b prototype: HTMLInputElement; new (): HTMLInputElement \x7d",
  "interface HTMLLIElement extends HTMLElement",
  " value: number",
  "declare var HTMLLIElement: \x7b prototype: HTMLLIElement; new (): HTMLLIElement \x7d",
  "interface HTMLLabelElement extends HTMLElement",
  " readonly control: HTMLElement | null",
  " readonly form: HTMLFormElement | null",
  " htmlFor: string",
  "declare var HTMLLabelElement: \x7b prototype: HTMLLabelElement; new (): HTMLLabelElement \x7d",
  "interface HTMLLegendElement extends HTMLElement",
  "declare var HTMLLegendElement: \x7b prototype: HTMLLegendElement; new (): HTMLLegendElement \x7d",
  "interface HTMLLinkElement extends HTMLElement",
  " as: string",
  " crossOrigin: string | null",
  " disabled: boolean",
  " href: string",
  " media: string",
  " rel: string",
  " readonly relList: DOMTokenList",
  " readonly sheet: CSSStyleSheet | null",
  " type: string",
  "declare var HTMLLinkElement: \x7b prototype: HTMLLinkElement; new (): HTMLLinkElement \x7d",
  "interface HTMLMapElement extends HTMLElement",
  " readonly areas: HTMLCollection",
  " name: string",
  "declare var HTMLMapElement: \x7b prototype: HTMLMapElement; new (): HTMLMapElement \x7d",
  "interface HTMLMenuElement extends HTMLElement",
  "declare var HTMLMenuElement: \x7b prototype: HTMLMenuElement; new (): HTMLMenuElement \x7d",
  "interface HTMLMetaElement extends HTMLElement",
  " content: string",
  " httpEquiv: string",
  " media: string",
  " name: string",
  "declare var HTMLMetaElement: \x7b prototype: HTMLMetaElement; new (): HTMLMetaElement \x7d",
  "interface HTMLMeterElement extends HTMLElement",
  " high: number",
  " readonly labels: NodeListOf<HTMLLabelElement>",
  " low: number",
  " max: number",
  " min: number",
  " optimum: number",
  " value: number",
  "declare var HTMLMeterElement: \x7b prototype: HTMLMeterElement; new (): HTMLMeterElement \x7d",
  "interface HTMLModElement extends HTMLElement",
  " cite: string",
  " dateTime: string",
  "declare var HTMLModElement: \x7b prototype: HTMLModElement; new (): HTMLModElement \x7d",
  "interface HTMLOListElement extends HTMLElement",
  " reversed: boolean",
  " start: number",
  " type: string",
  "declare var HTMLOListElement: \x7b prototype: HTMLOListElement; new (): HTMLOListElement \x7d",
  "interface HTMLObjectElement extends HTMLElement",
  " data: string",
  " height: string",
  " name: string",
  " type: string",
  " width: string",
  "declare var HTMLObjectElement: \x7b prototype: HTMLObjectElement; new (): HTMLObjectElement \x7d",
  "interface HTMLOptGroupElement extends HTMLElement",
  " disabled: boolean",
  " label: string",
  "declare var HTMLOptGroupElement: \x7b prototype: HTMLOptGroupElement; new (): HTMLOptGroupElement \x7d",
  "interface HTMLOptionElement extends HTMLElement",
  " defaultSelected: boolean",
  " disabled: boolean",
  " readonly form: HTMLFormElement | null",
  " readonly index: number",
  " label: string",
  " selected: boolean",
  " text: string",
  " value: string",
  "declare var HTMLOptionElement: \x7b prototype: HTMLOptionElement; new (): HTMLOptionElement \x7d",
  "interface HTMLOutputElement extends HTMLElement",
  " defaultValue: string",
  " readonly form: HTMLFormElement | null",
  " name: string",
  " readonly type: string",
  " value: string",
  "declare var HTMLOutputElement: \x7b prototype: HTMLOutputElement; new (): HTMLOutputElement \x7d",
  "interface HTMLParagraphElement extends HTMLElement",
  "declare var HTMLParagraphElement: \x7b prototype: HTMLParagraphElement; new (): HTMLParagraphElement \x7d",
  "interface HTMLPictureElement extends HTMLElement",
  "declare var HTMLPictureElement: \x7b prototype: HTMLPictureElement; new (): HTMLPictureElement \x7d",
  "interface HTMLPreElement extends HTMLElement",
  "declare var HTMLPreElement: \x7b prototype: HTMLPreElement; new (): HTMLPreElement \x7d",
  "interface HTMLProgressElement extends HTMLElement",
  " readonly labels: NodeListOf<HTMLLabelElement>",
  " max: number",
  " readonly position: number",
  " value: number",
  "declare var HTMLProgressElement: \x7b prototype: HTMLProgressElement; new (): HTMLProgressElement \x7d",
  "interface HTMLQuoteElement extends HTMLElement",
  " cite: string",
  "declare var HTMLQuoteElement: \x7b prototype: HTMLQuoteElement; new (): HTMLQuoteElement \x7d"]

/-- What is declared of the elements from scripts to videos. -/
def scriptToVideoLines : List String := [
  "interface HTMLScriptElement extends HTMLElement",
  " async: boolean",
  " crossOrigin: string | null",
  " defer: boolean",
  " integrity: string",
  " noModule: boolean",
  " src: string",
  " text: string",
  " type: string",
  "declare var HTMLScriptElement: \x7b prototype: HTMLScriptElement; new (): HTMLScriptElement \x7d",
  "interface HTMLSelectElement extends HTMLElement",
  " autocomplete: AutoFill",
  " disabled: boolean",
  " readonly form: HTMLFormElement | null",
  " readonly labels: NodeListOf<HTMLLabelElement>",
  " length: number",
  " multiple: boolean",
  " name: string",
  " readonly options: HTMLOptionsCollection",
  " required: boolean",
  " selectedIndex: number",
  " readonly selectedOptions: HTMLCollectionOf<HTMLOptionElement>",
  " size: number",
  " readonly type: \"select-one\" | \"select-multiple\"",
  " readonly validity: ValidityState",
  " value: string",
  " add(element: HTMLOptionElement | HTMLOptGroupElement, before?: HTMLElement | number | null): void",
  " checkValidity(): boolean",
  " item(index: number): HTMLOptionElement | null",
  " namedItem(name: string): HTMLOptionElement | null",
  " remove(): void",
  " remove(index: number): void",
  " [name: number]: HTMLOptionElement | HTMLOptGroupElement",
  "declare var HTMLSelectElement: \x7b prototype: HTMLSelectElement; new (): HTMLSelectElement \x7d",
  "interface HTMLSlotElement extends HTMLElement",
  " name: string",
  " assignedElements(options?: \x7b flatten?: boolean \x7d): Element[]",
  " assignedNodes(options?: \x7b flatten?: boolean \x7d): Node[]",
  "declare var HTMLSlotElement: \x7b prototype: HTMLSlotElement; new (): HTMLSlotElement \x7d",
  "interface HTMLSourceElement extends HTMLElement",
  " height: number",
  " media: string",
  " sizes: string",
  " src: string",
  " srcset: string",
  " type: string",
  " width: number",
  "declare var HTMLSourceElement: \x7b prototype: HTMLSourceElement; new (): HTMLSourceElement \x7d",
  "interface HTMLSpanElement extends HTMLElement",
  "declare var HTMLSpanElement: \x7b prototype: HTMLSpanElement; new (): HTMLSpanElement \x7d",
  "interface HTMLStyleElement extends HTMLElement",
  " disabled: boolean",
  " media: string",
  " readonly sheet: CSSStyleSheet | null",
  " type: string",
  "declare var HTMLStyleElement: \x7b prototype: HTMLStyleElement; new (): HTMLStyleElement \x7d",
  "interface HTMLTableCaptionElement extends HTMLElement",
  "declare var HTMLTableCaptionElement: \x7b prototype: HTMLTableCaptionElement; new (): HTMLTableCaptionElement \x7d",
  "interface HTMLTableCellElement extends HTMLElement",
  " abbr: string",
  " readonly cellIndex: number",
  " colSpan: number",
  " headers: string",
  " rowSpan: number",
  " scope: string",
  "declare var HTMLTableCellElement: \x7b prototype: HTMLTableCellElement; new (): HTMLTableCellElement \x7d",
  "interface HTMLTableColElement extends HTMLElement",
  " span: number",
  "declare var HTMLTableColElement: \x7b prototype: HTMLTableColElement; new (): HTMLTableColElement \x7d",
  "interface HTMLTableElement extends HTMLElement",
  " caption: HTMLTableCaptionElement | null",
  " readonly rows: HTMLCollectionOf<HTMLTableRowElement>",
  " readonly tBodies: HTMLCollectionOf<HTMLTableSectionElement>",
  " tFoot: HTMLTableSectionElement | null",
  " tHead: HTMLTableSectionElement | null",
  " createTHead(): HTMLTableSectionElement",
  " deleteRow(index: number): void",
  " insertRow(index?: number): HTMLTableRowElement",
  "declare var HTMLTableElement: \x7b prototype: HTMLTableElement; new (): HTMLTableElement \x7d",
  "interface HTMLTableRowElement extends HTMLElement",
  " readonly cells: HTMLCollectionOf<HTMLTableCellElement>",
  " readonly rowIndex: number",
  " readonly sectionRowIndex: number",
  " deleteCell(index: number): void",
  " insertCell(index?: number): HTMLTableCellElement",
  "declare var HTMLTableRowElement: \x7b prototype: HTMLTableRowElement; new (): HTMLTableRowElement \x7d",
  "interface HTMLTableSectionElement extends HTMLElement",
  " readonly rows: HTMLCollectionOf<HTMLTableRowElement>",
  " deleteRow(index: number): void",
  " insertRow(index?: number): HTMLTableRowElement",
  "declare var HTMLTableSectionElement: \x7b prototype: HTMLTableSectionElement; new (): HTMLTableSectionElement \x7d",
  "interface HTMLTemplateElement extends HTMLElement",
  " readonly content: DocumentFragment",
  "declare var HTMLTemplateElement: \x7b prototype: HTMLTemplateElement; new (): HTMLTemplateElement \x7d",
  "interface HTMLTextAreaElement extends HTMLElement",
  " autocomplete: AutoFill",
  " cols: number",
  " defaultValue: string",
  " dirName: string",
  " disabled: boolean",
  " readonly form: HTMLFormElement | null",
  " readonly labels: NodeListOf<HTMLLabelElement>",
  " maxLength: number",
  " minLength: number",
  " name: string",
  " placeholder: string",
  " readOnly: boolean",
  " required: boolean",
  " rows: number",
  " selectionDirection: \"forward\" | \"backward\" | \"none\"",
  " selectionEnd: number",
  " selectionStart: number",
  " readonly textLength: number",
  " readonly type: string",
  " readonly validity: ValidityState",
  " value: string",
  " readonly willValidate: boolean",
  " wrap: string",
  " checkValidity(): boolean",
  " select(): void",
  " setSelectionRange(start: number | null, end: number | null, direction?: \"forward\" | \"backward\" | \"none\"): void",
  "declare var HTMLTextAreaElement: \x7b prototype: HTMLTextAreaElement; new (): HTMLTextAreaElement \x7d",
  "interface HTMLTimeElement extends HTMLElement",
  " dateTime: string",
  "declare var HTMLTimeElement: \x7b prototype: HTMLTimeElement; new (): HTMLTimeElement \x7d",
  "interface HTMLTitleElement extends HTMLElement",
  " text: string",
  "declare var HTMLTitleElement: \x7b prototype: HTMLTitleElement; new (): HTMLTitleElement \x7d",
  "interface HTMLTrackElement extends HTMLElement",
  " default: boolean",
  " kind: string",
  " label: string",
  " src: string",
  " srclang: string",
  "declare var HTMLTrackElement: \x7b prototype: HTMLTrackElement; new (): HTMLTrackElement \x7d",
  "interface HTMLUListElement extends HTMLElement",
  "declare var HTMLUListElement: \x7b prototype: HTMLUListElement; new (): HTMLUListElement \x7d",
  "interface HTMLVideoElement extends HTMLMediaElement",
  " height: number",
  " playsInline: boolean",
  " poster: string",
  " readonly videoHeight: number",
  " readonly videoWidth: number",
  " width: number",
  " requestPictureInPicture(): Promise<PictureInPictureWindow>",
  "declare var HTMLVideoElement: \x7b prototype: HTMLVideoElement; new (): HTMLVideoElement \x7d"]

/-- What is declared of the names of elements. -/
def elementNameLines : List String := [
  "interface HTMLElementTagNameMap",
  " \"a\": HTMLAnchorElement",
  " \"abbr\": HTMLElement",
  " \"address\": HTMLElement",
  " \"area\": HTMLAreaElement",
  " \"article\": HTMLElement",
  " \"aside\": HTMLElement",
  " \"audio\": HTMLAudioElement",
  " \"b\": HTMLElement",
  " \"base\": HTMLBaseElement",
  " \"bdi\": HTMLElement",
  " \"bdo\": HTMLElement",
  " \"blockquote\": HTMLQuoteElement",
  " \"body\": HTMLBodyElement",
  " \"br\": HTMLBRElement",
  " \"button\": HTMLButtonElement",
  " \"canvas\": HTMLCanvasElement",
  " \"caption\": HTMLTableCaptionElement",
  " \"cite\": HTMLElement",
  " \"code\": HTMLElement",
  " \"col\": HTMLTableColElement",
  " \"colgroup\": HTMLTableColElement",
  " \"data\": HTMLDataElement",
  " \"datalist\": HTMLDataListElement",
  " \"dd\": HTMLElement",
  " \"del\": HTMLModElement",
  " \"details\": HTMLDetailsElement",
  " \"dfn\": HTMLElement",
  " \"dialog\": HTMLDialogElement",
  " \"div\": HTMLDivElement",
  " \"dl\": HTMLDListElement",
  " \"dt\": HTMLElement",
  " \"em\": HTMLElement",
  " \"embed\": HTMLEmbedElement",
  " \"fieldset\": HTMLFieldSetElement",
  " \"figcaption\": HTMLElement",
  " \"figure\": HTMLElement",
  " \"footer\": HTMLElement",
  " \"form\": HTMLFormElement",
  " \"h1\": HTMLHeadingElement",
  " \"h2\": HTMLHeadingElement",
  " \"h3\": HTMLHeadingElement",
  " \"h4\": HTMLHeadingElement",
  " \"h5\": HTMLHeadingElement",
  " \"h6\": HTMLHeadingElement",
  " \"head\": HTMLHeadElement",
  " \"header\": HTMLElement",
  " \"hgroup\": HTMLElement",
  " \"hr\": HTMLHRElement",
  " \"html\": HTMLHtmlElement",
  " \"i\": HTMLElement",
  " \"iframe\": HTMLIFrameElement",
  " \"img\": HTMLImageElement",
  " \"input\": HTMLInputElement",
  " \"ins\": HTMLModElement",
  " \"kbd\": HTMLElement",
  " \"label\": HTMLLabelElement",
  " \"legend\": HTMLLegendElement",
  " \"li\": HTMLLIElement",
  " \"link\": HTMLLinkElement",
  " \"main\": HTMLElement",
  " \"map\": HTMLMapElement",
  " \"mark\": HTMLElement",
  " \"menu\": HTMLMenuElement",
  " \"meta\": HTMLMetaElement",
  " \"meter\": HTMLMeterElement",
  " \"nav\": HTMLElement",
  " \"noscript\": HTMLElement",
  " \"object\": HTMLObjectElement",
  " \"ol\": HTMLOListElement",
  " \"optgroup\": HTMLOptGroupElement",
  " \"option\": HTMLOptionElement",
  " \"output\": HTMLOutputElement",
  " \"p\": HTMLParagraphElement",
  " \"picture\": HTMLPictureElement",
  " \"pre\": HTMLPreElement",
  " \"progress\": HTMLProgressElement",
  " \"q\": HTMLQuoteElement",
  " \"rp\": HTMLElement",
  " \"rt\": HTMLElement",
  " \"ruby\": HTMLElement",
  " \"s\": HTMLElement",
  " \"samp\": HTMLElement",
  " \"script\": HTMLScriptElement",
  " \"search\": HTMLElement",
  " \"section\": HTMLElement",
  " \"select\": HTMLSelectElement",
  " \"slot\": HTMLSlotElement",
  " \"small\": HTMLElement",
  " \"source\": HTMLSourceElement",
  " \"span\": HTMLSpanElement",
  " \"strong\": HTMLElement",
  " \"style\": HTMLStyleElement",
  " \"sub\": HTMLElement",
  " \"summary\": HTMLElement",
  " \"sup\": HTMLElement",
  " \"table\": HTMLTableElement",
  " \"tbody\": HTMLTableSectionElement",
  " \"td\": HTMLTableCellElement",
  " \"template\": HTMLTemplateElement",
  " \"textarea\": HTMLTextAreaElement",
  " \"tfoot\": HTMLTableSectionElement",
  " \"th\": HTMLTableCellElement",
  " \"thead\": HTMLTableSectionElement",
  " \"time\": HTMLTimeElement",
  " \"title\": HTMLTitleElement",
  " \"tr\": HTMLTableRowElement",
  " \"track\": HTMLTrackElement",
  " \"u\": HTMLElement",
  " \"ul\": HTMLUListElement",
  " \"var\": HTMLElement",
  " \"video\": HTMLVideoElement",
  " \"wbr\": HTMLElement"]

end TypeLineage.Library
